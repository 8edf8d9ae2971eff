import GossipPanel.Proofs.InputBox.Typing

/-!
# Typing while a list has the focus

What is typed or pasted while a list has the focus goes to the input box, and the focus with it. So
the display forgets which part had the focus.

* `InputBox.insert_insert`: texts typed one after the other are one text that is typed.
* `State.route_of_typedText`: one event of typing, whatever has the focus.
* `State.routeAll_chars`: characters one after the other.
* `keystrokes_reach_input_box`: the displays after typing from two different focuses are the same.
-/

namespace GossipPanel

open Display Panel Text

/-! ## Inserting -/

namespace Display.InputBox

variable (b : InputBox)

theorem parts_append : b.parts.1 ++ b.parts.2 = b.buffer.toList :=
  splitAtByte_append _ _

theorem parts_of_boundary {left right : List Char} (hbuffer : b.buffer.toList = left ++ right)
    (hcursor : b.cursor = byteLength left) : b.parts = (left, right) := by
  rw [parts, hbuffer, hcursor]
  exact splitAtByte_byteLength left right

theorem parts_withParts (before after : List Char) :
    (b.withParts before after).parts = (before, after) :=
  parts_of_boundary _ String.toList_ofList rfl

theorem insert_insert (first second : List Char) :
    (b.insert first).insert second = b.insert (first ++ second) := by
  have hparts : (b.insert first).parts = (b.parts.1 ++ first, b.parts.2) := parts_withParts b _ _
  rw [insert, hparts]
  simp only [insert, withParts, List.append_assoc]

end Display.InputBox

/-! ## Events of typing -/

namespace Display.State

variable (d : State) (app : App)

/-- The display with a text put in at the cursor of the input box, which has the focus. -/
def inserted (text : List Char) : State :=
  { d with focus := .input, input := d.input.insert text }

theorem inserted_inserted (first second : List Char) :
    (d.inserted first).inserted second = d.inserted (first ++ second) := by
  simp only [inserted, InputBox.insert_insert]

theorem inserted_of_focus (hfocus : d.focus = .input) (text : List Char) :
    d.inserted text = { d with input := d.input.insert text } := by
  rw [inserted, ← hfocus]

theorem inserted_settleFocus (view : View) (text : List Char) :
    (d.settleFocus view).inserted text = d.inserted text := by
  unfold settleFocus
  split <;> rfl

/-- The text that an event of typing puts in. -/
def typedText? : Event → Option (List Char)
  | .char c => some [c]
  | .paste text => some (InputBox.flatten text)
  | _ => none

theorem typeInto_eq {event : Event} {text : List Char} (h : typedText? event = some text) :
    d.typeInto event = d.inserted text := by
  cases event <;> cases h <;> rfl

theorem routeToInput_eq {event : Event} {text : List Char} (h : typedText? event = some text)
    (hfocus : d.focus = .input) : d.routeToInput app event = (none, d.inserted text) := by
  rw [inserted_of_focus d hfocus]
  cases event <;> cases h <;> rfl

/-- What is typed goes to the input box whatever has the focus, but for the key of the lists. -/
theorem route_of_typedText {event : Event} {text : List Char} (h : typedText? event = some text)
    (hkey : isTyping event = true ∨ d.focus = .input) :
    d.route app event = (none, d.inserted text) := by
  have hroute : d.route app event = d.routeToFocus app event := by
    cases event <;> first | rfl | cases h
  rw [hroute]
  by_cases hinput : (d.settleFocus app.view).focus = .input
  · rw [routeToFocus]
    simp only [hinput, ne_eq, not_true_eq_false, decide_false, Bool.false_and]
    rw [← d.inserted_settleFocus app.view]
    exact routeToInput_eq _ app h hinput
  · have htyping : isTyping event = true := by
      refine hkey.resolve_right fun hfocus => hinput ?_
      rw [settleFocus_of_ne (by simp [hfocus]), hfocus]
    rw [routeToFocus]
    simp [hinput, htyping, typeInto_eq _ h, inserted_settleFocus]

theorem routeAll_inserted (text cs : List Char) :
    (d.inserted text).routeAll app (cs.map .char) =
      (cs.map fun _ => none, d.inserted (text ++ cs)) := by
  induction cs generalizing text with
  | nil => rw [List.append_nil]; rfl
  | cons c cs ih =>
    have hroute : (d.inserted text).route app (.char c) = (none, d.inserted (text ++ [c])) := by
      rw [route_of_typedText _ app rfl (.inr rfl), inserted_inserted]
    have hrest := ih (text ++ [c])
    rw [List.append_assoc, List.singleton_append] at hrest
    simp only [List.map_cons, routeAll, hroute, hrest]

theorem routeAll_chars {text : List Char} (htext : text ≠ [])
    (hkey : text.head? ≠ some 'd' ∨ d.focus = .input) :
    d.routeAll app (text.map .char) = (text.map fun _ => none, d.inserted text) := by
  cases text with
  | nil => exact absurd rfl htext
  | cons c cs =>
    have hroute : d.route app (.char c) = (none, d.inserted [c]) :=
      d.route_of_typedText app rfl (hkey.imp_left fun hc => by simpa [isTyping] using hc)
    have hrest := d.routeAll_inserted app [c] cs
    simp only [List.map_cons, routeAll, hroute, hrest, List.singleton_append]

end Display.State

/-- **No keystroke is lost to a list.** Let two displays differ in their focus only, which one of
them has in the input box. A text that does not begin with a `d` is typed character by character,
or any text is pasted at once. Both displays become the same one, with the focus in the input box,
and no action comes of it. The text is put in at the cursor, between the characters that are in the
box, and the cursor is behind it; line ends that are pasted become blanks. -/
theorem keystrokes_reach_input_box (app : App) (d : Display.State) (focus : Focus)
    (hfocus : d.focus = .input) :
    let other : Display.State := { d with focus }
    let before := d.input.parts.1
    let behind := d.input.parts.2
    let typed (text : List Char) : Display.State :=
      { d with
        input := { d.input with
          buffer := String.ofList (before ++ text ++ behind)
          cursor := byteLength (before ++ text) } }
    (before ++ behind = d.input.buffer.toList ∧
        ∀ left right, d.input.buffer.toList = left ++ right → d.input.cursor = byteLength left →
          before = left ∧ behind = right) ∧
      (∀ text : String, text ≠ "" → text.toList.head? ≠ some 'd' →
        let keys := text.toList.map Event.char
        let nothing := text.toList.map fun _ => none
        d.routeAll app keys = (nothing, typed text.toList) ∧
          other.routeAll app keys = (nothing, typed text.toList)) ∧
      (∀ text : String,
        let line := text.toList.map fun c => if c = '\n' ∨ c = '\r' then ' ' else c
        d.route app (.paste text) = (none, typed line) ∧
          other.route app (.paste text) = (none, typed line)) ∧
      ∀ text, (typed text).focus = .input := by
  intro other before behind typed
  have hinserted : ∀ text, d.inserted text = typed text := d.inserted_of_focus hfocus
  have hother : ∀ text, other.inserted text = typed text := hinserted
  refine ⟨⟨d.input.parts_append, fun left right hbuffer hcursor => ?_⟩, fun text htext hkey => ?_,
    fun text => ?_, fun _ => hfocus⟩
  · have hparts := d.input.parts_of_boundary hbuffer hcursor
    exact ⟨congrArg Prod.fst hparts, congrArg Prod.snd hparts⟩
  · have hne : text.toList ≠ [] := by simpa using htext
    constructor
    · rw [← hinserted]
      exact d.routeAll_chars app hne (.inl hkey)
    · rw [← hother]
      exact other.routeAll_chars app hne (.inl hkey)
  · constructor
    · rw [← hinserted]
      exact d.route_of_typedText app rfl (.inl rfl)
    · rw [← hother]
      exact other.route_of_typedText app rfl (.inl rfl)

/-- The search results have kept the focus although the feed is shown. What is typed and what is
pasted there is put in between the two characters of the box. -/
theorem keystrokes_leave_hidden_results :
    let d : Display.State := { input := { buffer := "ab", cursor := 1 } }
    let other : Display.State := { d with focus := .search }
    d.focus = .input ∧ "hd" ≠ "" ∧ "hd".toList.head? ≠ some 'd' ∧
      other.routeAll {} [.char 'h', .char 'd'] =
        ([none, none], { input := { buffer := "ahdb", cursor := 3 } }) ∧
      other.route {} (.paste "d\n") = (none, { input := { buffer := "ad b", cursor := 3 } }) := by
  intro d other
  have hkey : "hd".toList.head? ≠ some 'd' := by decide
  obtain ⟨-, htyped, hpasted, -⟩ := keystrokes_reach_input_box {} d .search rfl
  refine ⟨rfl, by decide, hkey, ?_, ?_⟩
  · refine (htyped "hd" (by decide) hkey).2.trans (Prod.ext rfl ?_)
    decide
  · refine (hpasted "d\n").2.trans (Prod.ext rfl ?_)
    decide

end GossipPanel
