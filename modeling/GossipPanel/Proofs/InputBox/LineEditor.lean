import GossipPanel.Display.InputBox
import Mathlib.Data.List.Basic

/-!
# The input box as a line editor

The input box keeps a text and a byte offset. It behaves like an editor that keeps the characters
before its cursor and those behind it, and that knows nothing of bytes.

* `LineEditor`: the editor of two lists, with what an event does to them and what results.
* `LineEditor.box`: the box that shows an editor, its cursor behind the bytes of the first list.
  `handle_box`: the box does what the editor does.
* `InputBox.edit?`: the box with every step by byte offsets, as slices of its buffer that fail
  outside the buffer and inside a character. `edit?_box`: none of them fails.
* `input_box_is_line_editor`: this along every sequence of events.
-/

namespace GossipPanel.Display

open Panel Text

/-! ## An editor of two lists -/

/-- The characters before the cursor and those behind it. -/
structure LineEditor where
  left : List Char := []
  right : List Char := []
  deriving DecidableEq, Repr

namespace LineEditor

def text (e : LineEditor) : List Char :=
  e.left ++ e.right

/-- The event finds something to act on. -/
def accepts (e : LineEditor) : Event → Bool
  | .char _ | .paste _ => true
  | .backspace | .left | .home => !e.left.isEmpty
  | .delete | .right | .end => !e.right.isEmpty
  | .submit => e.text.any (!isBlank ·)
  | _ => false

/-- The lists after an event. -/
def act (e : LineEditor) : Event → LineEditor
  | .char c => { e with left := e.left ++ [c] }
  | .paste text =>
    { e with left := e.left ++ text.toList.map fun c => if c = '\n' ∨ c = '\r' then ' ' else c }
  | .backspace => { e with left := e.left.dropLast }
  | .delete => { e with right := e.right.tail }
  | .left => ⟨e.left.dropLast, e.left.getLast?.toList ++ e.right⟩
  | .right => ⟨e.left ++ e.right.head?.toList, e.right.tail⟩
  | .home => ⟨[], e.text⟩
  | .end => ⟨e.text, []⟩
  | .submit => if e.accepts .submit then {} else e
  | _ => e

/-- What results from an event: the whole text when it is submitted. -/
def result (e : LineEditor) (event : Event) : Option InputResult :=
  if e.accepts event then
    match event with
    | .submit => some (.submit (String.ofList e.text))
    | _ => some .changed
  else none

theorem isSome_result (e : LineEditor) (event : Event) :
    (e.result event).isSome = e.accepts event := by
  unfold result
  cases e.accepts event with
  | false => rfl
  | true => cases event <;> rfl

section
variable (left right : List Char) (c : Char)

theorem backspace_concat :
    result ⟨left ++ [c], right⟩ .backspace = some .changed ∧
      act ⟨left ++ [c], right⟩ .backspace = ⟨left, right⟩ := by
  constructor
  · show (if (!(left ++ [c]).isEmpty) = true then some InputResult.changed else none) = _
    simp
  · show LineEditor.mk (left ++ [c]).dropLast right = _
    rw [List.dropLast_concat]

theorem left_concat :
    result ⟨left ++ [c], right⟩ .left = some .changed ∧
      act ⟨left ++ [c], right⟩ .left = ⟨left, c :: right⟩ := by
  constructor
  · exact (backspace_concat left right c).1
  · show LineEditor.mk (left ++ [c]).dropLast ((left ++ [c]).getLast?.toList ++ right) = _
    rw [List.dropLast_concat, List.getLast?_concat]
    rfl

theorem right_nil (left : List Char) : act ⟨left, []⟩ .right = ⟨left, []⟩ ∧
    act ⟨left, []⟩ .end = ⟨left, []⟩ := by
  have hact : LineEditor.mk (left ++ []) [] = ⟨left, []⟩ := by rw [List.append_nil]
  exact ⟨hact, hact⟩

end

theorem accepts_submit (e : LineEditor) : e.accepts .submit = e.text.any (!isBlank ·) :=
  rfl

/-! ## The box that shows an editor -/

/-- The box with the text of the editor and the cursor behind its first list. -/
def box (e : LineEditor) (scroll : Nat) : InputBox :=
  { buffer := String.ofList e.text, cursor := byteLength e.left, scroll }

/-- Submitting shows the box from its first column. -/
def scrollAfter (e : LineEditor) (scroll : Nat) : Event → Nat
  | .submit => if e.accepts .submit then 0 else scroll
  | _ => scroll

variable (e : LineEditor) (scroll : Nat)

theorem toList_buffer_box : (e.box scroll).buffer.toList = e.left ++ e.right :=
  String.toList_ofList

theorem parts_box : (e.box scroll).parts = (e.left, e.right) := by
  rw [InputBox.parts, toList_buffer_box]
  exact splitAtByte_byteLength e.left e.right

theorem insert_box (text : List Char) :
    (e.box scroll).insert text = box { e with left := e.left ++ text } scroll := by
  rw [InputBox.insert, parts_box]
  rfl

theorem allBlank_box : allBlank (e.box scroll).buffer = !e.accepts .submit := by
  rw [allBlank, toList_buffer_box, accepts_submit, text, List.not_any_eq_all_not]
  simp

theorem submit_eq :
    (e.result .submit, (e.act .submit).box (e.scrollAfter scroll .submit)) =
      if e.accepts .submit then (some (.submit (String.ofList e.text)), {})
      else (none, e.box scroll) := by
  show ((if e.accepts .submit then some (InputResult.submit (String.ofList e.text)) else none),
    (if e.accepts .submit then {} else e : LineEditor).box
      (if e.accepts .submit then 0 else scroll)) = _
  cases e.accepts .submit <;> rfl

theorem handle_box (event : Event) :
    (e.box scroll).handle event =
      (e.result event, (e.act event).box (e.scrollAfter scroll event)) := by
  rw [InputBox.handle, parts_box]
  obtain ⟨left, right⟩ := e
  cases event with
  | char c =>
    show (some InputResult.changed, (box ⟨left, right⟩ scroll).insert [c]) = _
    rw [insert_box]
    rfl
  | paste text =>
    show (some InputResult.changed, (box ⟨left, right⟩ scroll).insert (InputBox.flatten text)) = _
    rw [insert_box]
    rfl
  | backspace => cases left <;> rfl
  | delete => cases right <;> rfl
  | left =>
    rcases left.eq_nil_or_concat' with rfl | ⟨left, c, rfl⟩
    · rfl
    · obtain ⟨hresult, hact⟩ := left_concat left right c
      rw [hresult, hact]
      simp only [List.getLast?_concat, List.dropLast_concat]
      rfl
  | right =>
    cases right with
    | nil =>
      rw [(right_nil left).1]
      rfl
    | cons c right => rfl
  | home => cases left <;> rfl
  | «end» =>
    cases right with
    | nil =>
      rw [(right_nil left).2]
      rfl
    | cons c right => rfl
  | submit =>
    show (if allBlank (box ⟨left, right⟩ scroll).buffer then (none, box ⟨left, right⟩ scroll)
      else (some (InputResult.submit (String.ofList (left ++ right))), {})) = _
    rw [submit_eq, allBlank_box]
    cases accepts ⟨left, right⟩ .submit <;> rfl
  | _ => rfl

theorem handle_box_submit (haccepts : e.accepts .submit = true) :
    (e.box scroll).handle .submit = (some (.submit (String.ofList e.text)), {}) := by
  rw [handle_box, submit_eq, if_pos haccepts]

end LineEditor

/-! ## The box by byte offsets -/

/-- The offset of the character before byte `n`. -/
def previousOffset? (n : Nat) (cs : List Char) : Option Nat :=
  (takeBytes? n cs).map fun before => byteLength before.dropLast

/-- The offset behind the character at byte `n`, or the end of the text. -/
def nextOffset? (n : Nat) (cs : List Char) : Option Nat :=
  (dropBytes? n cs).map fun after =>
    match after with
    | [] => byteLength cs
    | c :: _ => n + c.utf8Size

/-- The text with another one put in at byte `n`. -/
def insertAt? (n : Nat) (text cs : List Char) : Option (List Char) := do
  let before ← takeBytes? n cs
  let after ← dropBytes? n cs
  some (before ++ text ++ after)

/-- The text without its bytes from `m` up to `n`. -/
def drain? (m n : Nat) (cs : List Char) : Option (List Char) :=
  if m ≤ n then do
    let before ← takeBytes? m cs
    let after ← dropBytes? n cs
    some (before ++ after)
  else none

section
variable (left middle right text : List Char)

theorem previousOffset?_byteLength :
    previousOffset? (byteLength left) (left ++ right) = some (byteLength left.dropLast) := by
  rw [previousOffset?, takeBytes?_byteLength, Option.map_some]

theorem nextOffset?_byteLength (c : Char) :
    nextOffset? (byteLength left) (left ++ c :: right) = some (byteLength (left ++ [c])) := by
  have hlength : byteLength (left ++ [c]) = byteLength left + c.utf8Size := byteLength_append _ _
  rw [nextOffset?, dropBytes?_byteLength, Option.map_some, hlength]

theorem insertAt?_byteLength :
    insertAt? (byteLength left) text (left ++ right) = some (left ++ text ++ right) := by
  rw [insertAt?, takeBytes?_byteLength, dropBytes?_byteLength]
  rfl

theorem drain?_byteLength :
    drain? (byteLength left) (byteLength (left ++ middle)) (left ++ middle ++ right) =
      some (left ++ right) := by
  have hle : byteLength left ≤ byteLength (left ++ middle) := by
    rw [byteLength_append]
    omega
  rw [drain?, if_pos hle, dropBytes?_byteLength, List.append_assoc, takeBytes?_byteLength]
  rfl

end

namespace InputBox

/-- Puts a text in at the cursor. -/
def insertText? (b : InputBox) (text : List Char) : Option (Option InputResult × InputBox) := do
  let buffer ← insertAt? b.cursor text b.buffer.toList
  some (some .changed,
    { b with buffer := String.ofList buffer, cursor := b.cursor + byteLength text })

/-- Deletes the character before the cursor. -/
def deleteBefore? (b : InputBox) : Option (Option InputResult × InputBox) :=
  if 0 < b.cursor then do
    let previous ← previousOffset? b.cursor b.buffer.toList
    let buffer ← drain? previous b.cursor b.buffer.toList
    some (some .changed, { b with buffer := String.ofList buffer, cursor := previous })
  else some (none, b)

/-- Deletes the character behind the cursor. -/
def deleteBehind? (b : InputBox) : Option (Option InputResult × InputBox) :=
  if b.cursor < byteLength b.buffer.toList then do
    let next ← nextOffset? b.cursor b.buffer.toList
    let buffer ← drain? b.cursor next b.buffer.toList
    some (some .changed, { b with buffer := String.ofList buffer })
  else some (none, b)

def moveLeft? (b : InputBox) : Option (Option InputResult × InputBox) :=
  if 0 < b.cursor then do
    let cursor ← previousOffset? b.cursor b.buffer.toList
    some (some .changed, { b with cursor })
  else some (none, b)

def moveRight? (b : InputBox) : Option (Option InputResult × InputBox) :=
  if b.cursor < byteLength b.buffer.toList then do
    let cursor ← nextOffset? b.cursor b.buffer.toList
    some (some .changed, { b with cursor })
  else some (none, b)

/-- Puts the cursor at an end of the text, unless it is there. -/
def moveTo (b : InputBox) (cursor : Nat) : Option InputResult × InputBox :=
  if b.cursor = cursor then (none, b) else (some .changed, { b with cursor })

/-- What an event does to the box, by byte offsets; `none` when a slice of the buffer fails. -/
def edit? (b : InputBox) : Event → Option (Option InputResult × InputBox)
  | .char c => b.insertText? [c]
  | .paste text => b.insertText? (flatten text)
  | .backspace => b.deleteBefore?
  | .delete => b.deleteBehind?
  | .left => b.moveLeft?
  | .right => b.moveRight?
  | .home => some (b.moveTo 0)
  | .end => some (b.moveTo (byteLength b.buffer.toList))
  | .submit => some (if allBlank b.buffer then (none, b) else (some (.submit b.buffer), {}))
  | _ => some (none, b)

end InputBox

namespace LineEditor

variable (e : LineEditor) (scroll : Nat)

theorem cursor_box_pos : 0 < (e.box scroll).cursor ↔ e.left ≠ [] := by
  show 0 < byteLength e.left ↔ _
  rw [Nat.pos_iff_ne_zero, ne_eq, byteLength_eq_zero_iff]

theorem cursor_box_lt :
    (e.box scroll).cursor < byteLength (e.box scroll).buffer.toList ↔ e.right ≠ [] := by
  rw [toList_buffer_box, byteLength_append]
  show byteLength e.left < byteLength e.left + byteLength e.right ↔ _
  rw [Nat.lt_add_right_iff_pos, Nat.pos_iff_ne_zero, ne_eq, byteLength_eq_zero_iff]

theorem insertText?_box (text : List Char) :
    (e.box scroll).insertText? text =
      some (some .changed, box { e with left := e.left ++ text } scroll) := by
  have hinsert := insertAt?_byteLength e.left e.right text
  rw [InputBox.insertText?, toList_buffer_box, box, hinsert]
  simp [box, LineEditor.text]

theorem deleteBefore?_box :
    (e.box scroll).deleteBefore? =
      some (e.result .backspace, (e.act .backspace).box scroll) := by
  obtain ⟨left, right⟩ := e
  rcases left.eq_nil_or_concat' with rfl | ⟨left, c, rfl⟩
  · rfl
  · have hpos := (cursor_box_pos ⟨left ++ [c], right⟩ scroll).2 (by simp)
    obtain ⟨hresult, hact⟩ := backspace_concat left right c
    have hprevious := previousOffset?_byteLength (left ++ [c]) right
    have hdrain := drain?_byteLength left [c] right
    rw [List.dropLast_concat] at hprevious
    rw [hresult, hact, InputBox.deleteBefore?, if_pos hpos, toList_buffer_box, box]
    simp only [hprevious, hdrain, Option.bind_eq_bind, Option.bind_some]
    rfl

theorem deleteBehind?_box :
    (e.box scroll).deleteBehind? = some (e.result .delete, (e.act .delete).box scroll) := by
  obtain ⟨left, right⟩ := e
  cases right with
  | nil =>
    rw [InputBox.deleteBehind?, if_neg (by simp [cursor_box_lt])]
    rfl
  | cons c right =>
    have hlt := (cursor_box_lt ⟨left, c :: right⟩ scroll).2 (List.cons_ne_nil c right)
    have hnext := nextOffset?_byteLength left right c
    have hdrain := drain?_byteLength left [c] right
    rw [List.append_assoc, List.singleton_append] at hdrain
    rw [InputBox.deleteBehind?, if_pos hlt, toList_buffer_box, box]
    simp only [hnext, hdrain, Option.bind_eq_bind, Option.bind_some]
    rfl

theorem moveLeft?_box :
    (e.box scroll).moveLeft? = some (e.result .left, (e.act .left).box scroll) := by
  obtain ⟨left, right⟩ := e
  rcases left.eq_nil_or_concat' with rfl | ⟨left, c, rfl⟩
  · rfl
  · have hpos := (cursor_box_pos ⟨left ++ [c], right⟩ scroll).2 (by simp)
    obtain ⟨hresult, hact⟩ := left_concat left right c
    have hprevious := previousOffset?_byteLength (left ++ [c]) right
    rw [List.dropLast_concat] at hprevious
    rw [hresult, hact, InputBox.moveLeft?, if_pos hpos, toList_buffer_box, box]
    simp only [hprevious, Option.bind_eq_bind, Option.bind_some]
    simp [box, text]

theorem moveRight?_box :
    (e.box scroll).moveRight? = some (e.result .right, (e.act .right).box scroll) := by
  obtain ⟨left, right⟩ := e
  cases right with
  | nil =>
    rw [(right_nil left).1, InputBox.moveRight?, if_neg (by simp [cursor_box_lt])]
    rfl
  | cons c right =>
    have hlt := (cursor_box_lt ⟨left, c :: right⟩ scroll).2 (List.cons_ne_nil c right)
    have hnext := nextOffset?_byteLength left right c
    rw [InputBox.moveRight?, if_pos hlt, toList_buffer_box, box]
    simp only [hnext, Option.bind_eq_bind, Option.bind_some]
    show _ = some (some InputResult.changed, box ⟨left ++ [c], right⟩ scroll)
    simp [box, text]

theorem moveTo_start_box :
    (e.box scroll).moveTo 0 = (e.result .home, (e.act .home).box scroll) := by
  obtain ⟨left, right⟩ := e
  cases left with
  | nil => rfl
  | cons c left =>
    have hpos := (cursor_box_pos ⟨c :: left, right⟩ scroll).2 (List.cons_ne_nil c left)
    rw [InputBox.moveTo, if_neg (Nat.ne_of_gt hpos)]
    rfl

theorem moveTo_end_box :
    (e.box scroll).moveTo (byteLength (e.box scroll).buffer.toList) =
      (e.result .end, (e.act .end).box scroll) := by
  obtain ⟨left, right⟩ := e
  cases right with
  | nil =>
    have hend : (box ⟨left, []⟩ scroll).cursor =
        byteLength (box ⟨left, []⟩ scroll).buffer.toList := by
      rw [toList_buffer_box, List.append_nil]
      rfl
    rw [(right_nil left).2, InputBox.moveTo, if_pos hend]
    rfl
  | cons c right =>
    have hlt := (cursor_box_lt ⟨left, c :: right⟩ scroll).2 (List.cons_ne_nil c right)
    rw [InputBox.moveTo, if_neg (Nat.ne_of_lt hlt), toList_buffer_box]
    show (some InputResult.changed, _) =
      (some InputResult.changed, box ⟨left ++ c :: right, []⟩ scroll)
    simp [box, text]

/-- No slice of the buffer fails, and the box by byte offsets does what the editor does. -/
theorem edit?_box (event : Event) :
    (e.box scroll).edit? event =
      some (e.result event, (e.act event).box (e.scrollAfter scroll event)) := by
  cases event with
  | char c => exact insertText?_box e scroll [c]
  | paste text => exact insertText?_box e scroll (InputBox.flatten text)
  | backspace => exact deleteBefore?_box e scroll
  | delete => exact deleteBehind?_box e scroll
  | left => exact moveLeft?_box e scroll
  | right => exact moveRight?_box e scroll
  | home => exact congrArg some (moveTo_start_box e scroll)
  | «end» => exact congrArg some (moveTo_end_box e scroll)
  | submit =>
    have hsubmit := handle_box e scroll .submit
    rw [← hsubmit]
    rfl
  | _ => rfl

theorem foldl_handle_box (e : LineEditor) (scroll : Nat) (events : List Event) :
    ∃ later, events.foldl (fun b event => (b.handle event).2) (e.box scroll) =
      (events.foldl act e).box later := by
  induction events generalizing e scroll with
  | nil => exact ⟨scroll, rfl⟩
  | cons event events ih =>
    rw [List.foldl_cons, List.foldl_cons, handle_box]
    exact ih (e.act event) (e.scrollAfter scroll event)

end LineEditor

/-- **The input box is a line editor.** Let `e` be the editor of two lists, and let the same events
happen to it as to a box that is empty at first. Afterwards:

* the buffer is the characters before the cursor and then those behind it, and the cursor is the
  number of bytes of the former, so the buffer can be cut there;
* for every event, no slice that the box takes of its buffer fails, and the outcome is the one that
  the editor gives: a result exactly when there is something to act on, and the whole text when a
  text that is not blank is submitted. -/
theorem input_box_is_line_editor (events : List Event) :
    let b := events.foldl (fun b event => (b.handle event).2) ({} : InputBox)
    let e := events.foldl LineEditor.act {}
    b.buffer = String.ofList (e.left ++ e.right) ∧ b.cursor = byteLength e.left ∧
      takeBytes? b.cursor b.buffer.toList = some e.left ∧
      dropBytes? b.cursor b.buffer.toList = some e.right ∧
      ∀ event, b.edit? event = some (b.handle event) ∧
        (b.handle event).1 = e.result event ∧
        (b.handle event).1.isSome = e.accepts event := by
  intro b e
  obtain ⟨scroll, hbox⟩ : ∃ scroll, b = e.box scroll := LineEditor.foldl_handle_box {} 0 events
  have hbuffer := LineEditor.toList_buffer_box e scroll
  rw [hbox]
  refine ⟨rfl, rfl, ?_, ?_, fun event => ?_⟩
  · rw [hbuffer]
    exact takeBytes?_byteLength e.left e.right
  · rw [hbuffer]
    exact dropBytes?_byteLength e.left e.right
  · rw [LineEditor.edit?_box, LineEditor.handle_box]
    exact ⟨rfl, rfl, e.isSome_result event⟩

example :
    let b := [Event.paste "héllo", .home, .right, .delete, .end, .backspace].foldl
      (fun b event => (b.handle event).2) ({} : InputBox)
    b.buffer = "hll" ∧ b.cursor = 3 ∧ (b.handle .right).1 = none := by
  decide

end GossipPanel.Display
