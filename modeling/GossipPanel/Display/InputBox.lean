import GossipPanel.Display.Event
import GossipPanel.Panel.State
import GossipPanel.Screen.Frame
import GossipPanel.Screen.Paragraph

/-!
# The input box

One line of text with a cursor. The cursor is a byte offset at a character boundary; a line wider
than the box is shown from the column `scroll` on, so that the cursor stays visible.
-/

namespace GossipPanel.Display

open Panel Screen Text

structure InputBox where
  buffer : String := ""
  /-- Byte offset of the cursor. -/
  cursor : Nat := 0
  /-- Column of the first character shown. -/
  scroll : Nat := 0
  deriving DecidableEq, Repr

/-- What an event does to the input box. -/
inductive InputResult where
  | submit (text : String)
  | changed
  deriving DecidableEq, Repr

namespace InputBox

/-- The title that says where the text will go. -/
def titleFor (view : View) (sending : Bool) : String :=
  if sending then "Sending…"
  else
    match view with
    | .gossip => "Broadcast (/help for commands)"
    | .search => "Search keywords"
    | .peer name => s!"Private message to {name}"

/-- The characters before and after the cursor. -/
def parts (b : InputBox) : List Char × List Char :=
  splitAtByte b.cursor b.buffer.toList

/-- The box with these characters before and after the cursor. -/
def withParts (b : InputBox) (before after : List Char) : InputBox :=
  { b with buffer := String.ofList (before ++ after), cursor := byteLength before }

/-- Inserts characters at the cursor. -/
def insert (b : InputBox) (text : List Char) : InputBox :=
  let (before, after) := b.parts
  b.withParts (before ++ text) after

/-- A pasted text in one line. -/
def flatten (text : String) : List Char :=
  text.toList.map fun c => if c = '\n' ∨ c = '\r' then ' ' else c

/-- What an event does to the box. Nothing results from an event that has nothing to act on. -/
def handle (b : InputBox) (event : Event) : Option InputResult × InputBox :=
  let (before, after) := b.parts
  match event with
  | .char c => (some .changed, b.insert [c])
  | .paste text => (some .changed, b.insert (flatten text))
  | .backspace =>
    if before.isEmpty then (none, b) else (some .changed, b.withParts before.dropLast after)
  | .delete =>
    if after.isEmpty then (none, b) else (some .changed, b.withParts before after.tail)
  | .left =>
    match before.getLast? with
    | none => (none, b)
    | some c => (some .changed, b.withParts before.dropLast (c :: after))
  | .right =>
    match after with
    | [] => (none, b)
    | c :: after => (some .changed, b.withParts (before ++ [c]) after)
  | .home => if before.isEmpty then (none, b) else (some .changed, b.withParts [] (before ++ after))
  | .end => if after.isEmpty then (none, b) else (some .changed, b.withParts (before ++ after) [])
  | .submit => if allBlank b.buffer then (none, b) else (some (.submit b.buffer), {})
  | _ => (none, b)

def cursorColumn (b : InputBox) : Nat :=
  textWidth b.parts.1

/-- Moves the window of `width` columns as little as needed for the cursor to be inside it. -/
def updateScroll (b : InputBox) (width : Nat) : InputBox :=
  let column := b.cursorColumn
  let scroll :=
    if width = 0 then 0
    else if column < b.scroll then column
    else if b.scroll + width ≤ column then column + 1 - width
    else b.scroll
  { b with scroll }

theorem updateScroll_covers (b : InputBox) {width : Nat} (hwidth : 0 < width) :
    (b.updateScroll width).scroll ≤ b.cursorColumn ∧
      b.cursorColumn < (b.updateScroll width).scroll + width := by
  simp only [updateScroll]
  split
  · omega
  · split
    · omega
    · split
      · omega
      · omega

theorem updateScroll_of_covers {b : InputBox} {width : Nat} (hwidth : 0 < width)
    (hscroll : b.scroll ≤ b.cursorColumn) (hcovers : b.cursorColumn < b.scroll + width) :
    b.updateScroll width = b := by
  simp only [updateScroll, if_neg (Nat.ne_of_gt hwidth), if_neg (Nat.not_lt.2 hscroll),
    if_neg (Nat.not_le.2 hcovers)]

/-- The characters that start at the column `scroll` or later, as far as they fit into `room`
columns. -/
def visibleFrom (scroll column room : Nat) : List Char → List Char
  | [] => []
  | c :: cs =>
    let w := charWidth c
    if column < scroll then visibleFrom scroll (column + w) room cs
    else if room < w then []
    else c :: visibleFrom scroll (column + w) (room - w) cs

/-- The text shown in a window of `width` columns. -/
def visibleText (b : InputBox) (width : Nat) : String :=
  String.ofList (visibleFrom b.scroll 0 width b.buffer.toList)

/-- Draws the box; the cursor is on the screen when the box has the focus. -/
def draw (b : InputBox) (title : String) (focused : Bool) (width height : Nat) :
    InputBox × Picture × Option (Nat × Nat) :=
  let inner := width - 2
  let b := b.updateScroll inner
  let border : Style := .colored (if focused then .green else .darkGray)
  let frame : Frame := { style := border, title := lineSpans {} title }
  let contents := paragraph (.colored .green) (b.visibleText inner) inner (height - 2)
  (b, frame.around width height contents,
    if focused then some (1 + (b.cursorColumn - b.scroll), 1) else none)

end InputBox

end GossipPanel.Display
