import GossipPanel.Proofs.InputBox.LineEditor
import Mathlib.Data.List.Induction
import Mathlib.Data.Nat.PSub

/-!
# Scrolling to the cursor

The column from which the input box shows its text is kept from one drawing to the next. In between
the text may have changed and the box may have had another width, or none at all, so nothing is
known of this column when a drawing begins. The drawing itself puts it where the cursor is shown.

* `InputBox.Move`: what happens to an input box. `LineEditor.exists_moves_box`: drawings leave the
  text and the cursor to the events, and move nothing but the column.
* `InputBox.scrollTo?` and `InputBox.screenColumn?`: the column of the text and the column of the
  cursor on the screen by unsigned numbers, which fail below zero and above 16 bits.
  `scrollTo?_eq` and `exists_screenColumn?`: they do not fail.
* `cursor_inside_borders`: every drawing along every run.
-/

namespace GossipPanel.Display

open Text

namespace InputBox

/-! ## Runs -/

/-- What happens to an input box. -/
inductive Move where
  | handle (event : Event)
  | draw (title : String) (focused : Bool) (width height : Nat)

/-- The event of a move that is not a drawing. -/
def Move.event? : Move → Option Event
  | .handle event => some event
  | .draw .. => none

def move (b : InputBox) : Move → InputBox
  | .handle event => (b.handle event).2
  | .draw title focused width height => (b.draw title focused width height).1

def moves (b : InputBox) (ms : List Move) : InputBox :=
  ms.foldl move b

end InputBox

namespace LineEditor

/-- The editor after the events among these moves. -/
def edited (ms : List InputBox.Move) : LineEditor :=
  (ms.filterMap InputBox.Move.event?).foldl act {}

theorem exists_move_box (e : LineEditor) (scroll : Nat) (m : InputBox.Move) :
    ∃ later, (e.box scroll).move m = (m.event?.toList.foldl act e).box later := by
  cases m with
  | handle event => exact ⟨_, congrArg Prod.snd (e.handle_box scroll event)⟩
  | draw title focused width height =>
    exact ⟨((e.box scroll).updateScroll (width - 2)).scroll, rfl⟩

theorem exists_moves_box (ms : List InputBox.Move) :
    ∃ scroll, ({} : InputBox).moves ms = (edited ms).box scroll := by
  induction ms using List.reverseRecOn with
  | nil => exact ⟨0, rfl⟩
  | append_singleton ms last ih =>
    obtain ⟨scroll, hbox⟩ := ih
    obtain ⟨later, hmove⟩ := (edited ms).exists_move_box scroll last
    refine ⟨later, ?_⟩
    have hedited : edited (ms ++ [last]) = last.event?.toList.foldl act (edited ms) := by
      rw [edited, List.filterMap_append, List.foldl_append]
      cases last <;> rfl
    rw [InputBox.moves, List.foldl_append, hedited, ← hmove, ← hbox]
    rfl

theorem cursorColumn_box (e : LineEditor) (scroll : Nat) :
    (e.box scroll).cursorColumn = textWidth e.left := by
  rw [InputBox.cursorColumn, parts_box]

end LineEditor

/-! ## Unsigned numbers -/

/-- A sum of 16-bit numbers, if it is one. -/
def add16? (m n : UInt16) : Option UInt16 :=
  if m.toNat + n.toNat < UInt16.size then some (m + n) else none

theorem exists_add16? {m n : UInt16} (h : m.toNat + n.toNat < UInt16.size) :
    ∃ sum, add16? m n = some sum ∧ sum.toNat = m.toNat + n.toNat := by
  refine ⟨m + n, if_pos h, ?_⟩
  rw [UInt16.toNat_add]
  exact Nat.mod_eq_of_lt h

namespace InputBox

/-- The column that the text is shown from, by unsigned numbers; `none` when a difference is
negative. -/
def scrollTo? (b : InputBox) (width : Nat) : Option Nat :=
  if width = 0 then some 0
  else if b.cursorColumn < b.scroll then some b.cursorColumn
  else if b.scroll + width ≤ b.cursorColumn then Nat.psub (b.cursorColumn + 1) width
  else some b.scroll

/-- The column of the cursor on a screen where the box begins at column `x`. What the cursor is
behind the left border is cut to 16 bits; `none` when a difference is negative or a sum too large. -/
def screenColumn? (b : InputBox) (x width : UInt16) : Option UInt16 := do
  let scroll ← b.scrollTo? (width.toNat - 2)
  let shown ← Nat.psub b.cursorColumn scroll
  let first ← add16? x 1
  add16? first (UInt16.ofNat shown)

variable (b : InputBox)

theorem scrollTo?_eq (width : Nat) : b.scrollTo? width = some (b.updateScroll width).scroll := by
  simp only [scrollTo?, updateScroll]
  split
  · rfl
  split
  · rfl
  split
  · exact Nat.psub_eq_sub (by omega)
  · rfl

/-- The columns between the left border and the cursor are fewer than a box is wide, so that they
are a number of 16 bits, and so is the column of the screen that they lead to. -/
theorem exists_screenColumn? {x width : UInt16} (hwidth : 3 ≤ width.toNat)
    (hright : x.toNat + width.toNat < UInt16.size) :
    let shown := b.cursorColumn - (b.updateScroll (width.toNat - 2)).scroll
    (UInt16.ofNat shown).toNat = shown ∧
      ∃ column, b.screenColumn? x width = some column ∧ column.toNat = x.toNat + 1 + shown := by
  intro shown
  obtain ⟨hscroll, hcovers⟩ := b.updateScroll_covers (show 0 < width.toNat - 2 by omega)
  have hshown : shown < width.toNat - 2 := by omega
  have hkept : (UInt16.ofNat shown).toNat = shown := by
    rw [UInt16.toNat_ofNat']
    exact Nat.mod_eq_of_lt (show shown < UInt16.size by omega)
  have hone : (1 : UInt16).toNat = 1 := rfl
  obtain ⟨first, hfirst, hfirst_eq⟩ : ∃ first, add16? x 1 = some first ∧ _ :=
    exists_add16? (by omega)
  obtain ⟨column, hcolumn, hcolumn_eq⟩ :
      ∃ column, add16? first (UInt16.ofNat shown) = some column ∧ _ := exists_add16? (by omega)
  refine ⟨hkept, column, ?_, by omega⟩
  simp only [screenColumn?, scrollTo?_eq, Nat.psub_eq_sub hscroll, Option.bind_eq_bind,
    Option.bind_some, hfirst]
  exact hcolumn

end InputBox

/-- **Scrolling keeps the cursor inside the box.** Along every run of events and drawings in boxes of
any size, the column of the cursor is the width of what the events have left before it. A drawing in
a box of three columns or more, wherever it is on a screen of 16-bit columns:

* leaves the cursor in the columns of the text that the box shows, and the box as it was if the
  cursor was in them before;
* finds the screen column of the cursor without a negative difference, a lost bit or too large a
  sum, between the left border and the right one;
* puts the cursor there if the box has the focus, in the row below the upper border. With three rows
  or more, so that there is a row inside, this one is above the lower border. -/
theorem cursor_inside_borders (ms : List InputBox.Move) (title : String) (focused : Bool)
    (x width : UInt16) (height : Nat) (hwidth : 3 ≤ width.toNat)
    (hright : x.toNat + width.toNat < UInt16.size) :
    let b := ({} : InputBox).moves ms
    let room := width.toNat - 2
    let drawn := (b.draw title focused width.toNat height).1
    let cursor := (b.draw title focused width.toNat height).2.2
    let shown := b.cursorColumn - drawn.scroll
    b.cursorColumn = textWidth (LineEditor.edited ms).left ∧
      drawn.cursorColumn = b.cursorColumn ∧
      drawn.scroll ≤ b.cursorColumn ∧ b.cursorColumn < drawn.scroll + room ∧
      (b.scroll ≤ b.cursorColumn → b.cursorColumn < b.scroll + room → drawn = b) ∧
      (UInt16.ofNat shown).toNat = shown ∧
      ∃ column, b.screenColumn? x width = some column ∧
        column.toNat = x.toNat + 1 + shown ∧
        x < column ∧ column.toNat + 1 < x.toNat + width.toNat ∧
        cursor = (if focused then some (column.toNat - x.toNat, 1) else none) ∧
        (3 ≤ height → ∀ cell, cursor = some cell → 0 < cell.2 ∧ cell.2 + 1 < height) := by
  intro b room drawn cursor shown
  obtain ⟨scroll, hbox⟩ : ∃ scroll, b = (LineEditor.edited ms).box scroll :=
    LineEditor.exists_moves_box ms
  have hroom : 0 < room := by omega
  have hdrawn : drawn = b.updateScroll room := rfl
  obtain ⟨hscroll, hcovers⟩ : drawn.scroll ≤ b.cursorColumn ∧ b.cursorColumn < drawn.scroll + room :=
    b.updateScroll_covers hroom
  obtain ⟨hkept, column, hcolumn, hsum⟩ := b.exists_screenColumn? hwidth hright
  have hsum : column.toNat = x.toNat + 1 + shown := hsum
  have hcursor : cursor = if focused then some (column.toNat - x.toNat, 1) else none := by
    have hplace : column.toNat - x.toNat = 1 + shown := by omega
    rw [hplace]
    rfl
  refine ⟨?_, rfl, hscroll, hcovers, InputBox.updateScroll_of_covers hroom, hkept, column, hcolumn,
    hsum, UInt16.lt_iff_toNat_lt.2 (by omega), by omega, hcursor, fun hheight cell hcell => ?_⟩
  · rw [hbox, LineEditor.cursorColumn_box]
  · rw [hcursor] at hcell
    cases focused with
    | false => cases hcell
    | true =>
      obtain rfl := Option.some.inj hcell
      exact ⟨Nat.one_pos, hheight⟩

/-- A line of 26 letters, drawn in ten columns, then without any, then in ten again in a box that
begins at column 5 of the screen: the line is scrolled anew, and the cursor is in the tenth. -/
theorem cursor_inside_after_narrow_box :
    let ms : List InputBox.Move :=
      [.handle (.paste "abcdefghijklmnopqrstuvwxyz"), .draw "" true 12 3, .draw "" true 2 3]
    let b := ({} : InputBox).moves ms
    3 ≤ (12 : UInt16).toNat ∧ (5 : UInt16).toNat + (12 : UInt16).toNat < UInt16.size ∧
      b.scroll = 0 ∧ b.cursorColumn = 26 ∧ (b.draw "" true 12 3).1.scroll = 17 ∧
      b.screenColumn? 5 12 = some 15 ∧ (b.draw "" true 12 3).2.2 = some (10, 1) := by
  intro ms b
  have hwidth : 3 ≤ (12 : UInt16).toNat := by decide
  have hright : (5 : UInt16).toNat + (12 : UInt16).toNat < UInt16.size := by decide
  have hcursor : b.cursorColumn = 26 := by decide +kernel
  have hscroll : (b.draw "" true 12 3).1.scroll = 17 := by decide +kernel
  obtain ⟨-, -, -, -, -, -, column, hcolumn, hsum, -, -, hplace, -⟩ :=
    cursor_inside_borders ms "" true 5 12 3 hwidth hright
  have hsum : column.toNat = 5 + 1 + (b.cursorColumn - (b.draw "" true 12 3).1.scroll) := hsum
  rw [hcursor, hscroll] at hsum
  obtain rfl : column = 15 := UInt16.toNat_inj.1 hsum
  exact ⟨hwidth, hright, by decide +kernel, hcursor, hscroll, hcolumn, hplace⟩

end GossipPanel.Display
