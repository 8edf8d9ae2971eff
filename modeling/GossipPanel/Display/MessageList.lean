import GossipPanel.Display.Bubble
import GossipPanel.Display.Event
import GossipPanel.Screen.Widgets

/-!
# The message list

A scrollable view of a feed or of a conversation. Offsets are rows of the whole feed; only the
messages near the viewport are drawn.

* `Layout` holds the heights of the messages and where each of them ends.
* `MessageList` holds the scroll position, and whether it follows the newest message.
-/

namespace GossipPanel.Display

open Panel Screen

/-- The greatest offset that counts; sums stop there. -/
def maxRow : Nat := UInt32.size - 1

/-- The greatest height of a window. -/
def maxWindow : Nat := UInt16.size - 1

/-- Where messages stand in the feed. The heights are kept from one drawing to the next, together
with what they were computed for. -/
structure Layout where
  /-- The height of every message. -/
  heights : List Nat := []
  /-- The messages that the heights belong to. -/
  rows : List MessageRow := []
  /-- The width that the heights belong to. -/
  width : Nat := 0
  deriving DecidableEq, Repr

namespace Layout

/-- The bottom edges of messages that start at row `top`. -/
def bottomsFrom (top : Nat) : List Nat → List Nat
  | [] => []
  | h :: hs => min (top + h) maxRow :: bottomsFrom (min (top + h) maxRow) hs

/-- The bottom edge of every message. -/
def bottoms (l : Layout) : List Nat :=
  bottomsFrom 0 l.heights

/-- The number of rows of the feed. -/
def total (l : Layout) : Nat :=
  l.bottoms.getLast?.getD 0

/-- The top edge of a message; past the last one, the bottom of the feed. -/
def top (l : Layout) (i : Nat) : Nat :=
  if i = 0 then 0 else l.bottoms.getD (i - 1) l.total

/-- The messages that reach into the viewport or into half a screen above and below it: the first,
and the one after the last. -/
def visible (l : Layout) (offset height : Nat) : Nat × Nat :=
  let slack := height / 2
  let start := offset - slack
  let stop := min (min (offset + height) maxRow + slack) maxRow
  ((l.bottoms.takeWhile (· ≤ start)).length,
    min ((l.bottoms.takeWhile (· < stop)).length + 1) l.bottoms.length)

/-- The heights of the messages at the start of a feed that have not changed. -/
def unchanged : List MessageRow → List Nat → List MessageRow → List Nat
  | old :: olds, h :: hs, row :: rows => if old = row then h :: unchanged olds hs rows else []
  | _, _, _ => []

/-- The heights that can be kept for these messages in a width. -/
def kept (l : Layout) (rows : List MessageRow) (width : Nat) : List Nat :=
  if l.width = width then unchanged l.rows l.heights rows else []

/-- The layout of messages in a width; only what is new is measured. -/
def update (l : Layout) (rows : List MessageRow) (width : Nat) : Layout :=
  let kept := l.kept rows width
  { heights := kept ++ (rows.drop kept.length).map fun row => (Bubble.height row width).toNat
    rows
    width }

end Layout

/-- The scroll position of a feed. -/
structure MessageList where
  /-- The row of the feed at the top of the viewport. -/
  offset : Nat := 0
  layout : Layout := {}
  /-- The newest message is followed. -/
  stick : Bool := true
  /-- Height of the viewport when it was drawn last. -/
  viewport : Nat := 0
  deriving DecidableEq, Repr

namespace MessageList

/-- The offset that shows the end of the feed. -/
def maxOffset (m : MessageList) : Nat :=
  m.layout.total - m.viewport

/-- Shows the newest message and follows from there. -/
def pin (m : MessageList) : MessageList :=
  { m with stick := true, offset := m.maxOffset }

/-- Rows lie below the viewport of a list that does not follow them. -/
def hasUnseen (m : MessageList) : Bool :=
  !m.stick && m.offset < m.maxOffset

/-- The number of rows of a page. -/
def page (m : MessageList) : Nat :=
  max m.viewport 1

/-- Moves up and stops following. -/
def up (m : MessageList) (rows : Nat) : MessageList :=
  { m with offset := m.offset - rows, stick := false }

/-- Moves down; at the end the list follows again. -/
def down (m : MessageList) (rows : Nat) : MessageList :=
  let m := { m with offset := min (m.offset + rows) maxRow }
  if m.maxOffset ≤ m.offset then m.pin else m

def handle (m : MessageList) : Event → MessageList
  | .scrollUp => m.up 1
  | .scrollDown => m.down 1
  | .pageUp => m.up m.page
  | .pageDown => m.down m.page
  | _ => m

/-- The list for these messages in a viewport, before it is drawn. -/
def arrange (m : MessageList) (rows : List MessageRow) (width height : Nat) : MessageList :=
  let m := { m with layout := m.layout.update rows width, viewport := height }
  { m with offset := if m.stick then m.maxOffset else min m.offset m.maxOffset }

/-- The pictures of messages one below the other, from row `y` of a window on, as far as the
window reaches. -/
def stack (width window y : Nat) : List (MessageRow × Nat) → Picture
  | [] => []
  | (row, h) :: rest =>
    let h := min h (window - y)
    if h = 0 then [] else Bubble.draw row width h ++ stack width window (y + h) rest

/-- The rows of the feed that the viewport shows. A scroll view would move an offset back from which
its rows end above the lower edge of the viewport. This is left out here: no offset lies so far
down, unless the window is cut to `maxWindow`. -/
def window (m : MessageList) (rows : List MessageRow) (width height : Nat) : Picture :=
  let (first, stop) := m.layout.visible m.offset height
  let top := m.layout.top first
  let size := min (m.layout.top stop - top) maxWindow
  let shown := ((rows.zip m.layout.heights).drop first).take (stop - first)
  fitRows (blank .plain) width height
    ((stack width size 0 shown).drop (min (m.offset - top) maxWindow))

/-- Draws the list with a scroll bar in the last column, or a remark when there is no message. -/
def draw (m : MessageList) (rows : List MessageRow) (remark : String) (width height : Nat) :
    MessageList × Picture :=
  if rows.isEmpty then
    ({ m with layout := {}, offset := 0 }, paragraph (.colored .darkGray) remark width height)
  else
    let m := m.arrange rows (width - 1) height
    (m,
      if width = 0 then blankPicture (blank .plain) 0 height
      else
        beside (m.window rows (width - 1) height)
          ((scrollBar m.offset m.maxOffset height).map fun c => [c]))

end MessageList

end GossipPanel.Display
