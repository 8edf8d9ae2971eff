import GossipPanel.Panel.Feed
import GossipPanel.Screen.Frame
import GossipPanel.Screen.Paragraph
import GossipPanel.Text.Fill

/-!
# One message

A frame with the author as its title, the content, and a line of details. `height` predicts the
number of rows without drawing anything.
-/

namespace GossipPanel.Display.Bubble

open Panel Screen Text

/-- Columns that the frame and the padding take. -/
def sideColumns : Nat := 4

/-- Rows that the frame and the details take. -/
def extraRows : UInt16 := 3

def height (row : MessageRow) (width : Nat) : UInt16 :=
  let inner := width - sideColumns
  if inner = 0 then 1
  else
    let content := trim row.content.toList
    let rows := if content.isEmpty then 0 else Fill.filledRows inner content
    UInt16.ofNat rows + extraRows

/-- The colour of the author: green for the controlled node. -/
def authorColor (row : MessageRow) : Color :=
  if row.isSelf then .green else .blue

/-- The title: the author, bold on the first message of an origin. -/
def title (row : MessageRow) : String :=
  if row.isSelf then row.author ++ " (you)" else row.author

def frame (row : MessageRow) : Frame :=
  { style := { color := some (authorColor row), dim := true }
    title := lineSpans {} (title row)
    titleStyle := { color := some (authorColor row), bold := row.isOrigin } }

/-- The details in the last of `height` rows, after a column of padding. -/
def contents (row : MessageRow) (width height : Nat) : Picture :=
  let detailRows := min height 1
  let details := paragraph (.colored .darkGray) row.details width detailRows
  blankPicture (blank .plain) width (height - detailRows) ++
    details.map fun cells => blank .plain :: cells

/-- The picture of a message. The content begins after the frame and a column of padding, in the
rows above the details. -/
def draw (row : MessageRow) (width height : Nat) : Picture :=
  let inner := width - sideColumns
  Picture.overlay 2 1 ((frame row).around width height (contents row inner (height - 2)))
    (wrappedText (trimmed row.content) inner (height - 3))

end GossipPanel.Display.Bubble
