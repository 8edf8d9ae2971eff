import GossipPanel.Proofs.Json.Literals

/-!
# Written values are read back

A value has a written form when its literals are texts and its numbers numerals. The reader takes
that form apart again: `readValue_render` by recursion on the value, together with the items and
members it is made of, and `parse?_render` for a whole text.

The reader counts its calls down from a fuel. An item costs at most two calls, and every item takes
at least one character, so the fuel is bounded by the length of the text and no measure of values
is needed.
-/

namespace GossipPanel.Json

mutual

/-- The value has a written form: its literals are texts and its numbers numerals. -/
def Value.IsProper : Value → Prop
  | .null | .bool _ => True
  | .number n => n.IsNumeral
  | .string s => s.isSome
  | .array items => AreProper items
  | .object members => MembersProper members

/-- All items have a written form. -/
def AreProper : List Value → Prop
  | [] => True
  | v :: vs => v.IsProper ∧ AreProper vs

/-- All members have a written form. -/
def MembersProper : List (Literal × Value) → Prop
  | [] => True
  | (k, v) :: ms => k.isSome ∧ v.IsProper ∧ MembersProper ms

end

theorem areProper_iff {vs : List Value} : AreProper vs ↔ ∀ v ∈ vs, v.IsProper := by
  induction vs with
  | nil => simp [AreProper]
  | cons v vs ih => simp [AreProper, ih]

theorem membersProper_iff {ms : List (Literal × Value)} :
    MembersProper ms ↔ ∀ m ∈ ms, m.1.isSome ∧ m.2.IsProper := by
  induction ms with
  | nil => simp [MembersProper]
  | cons m ms ih => simp [MembersProper, ih, and_assoc]

/-! ## White space and first characters -/

@[simp]
theorem skipSpace_of_not_isSpace {c : Char} (hc : isSpace c = false) (cs : List Char) :
    skipSpace (c :: cs) = c :: cs := by
  simp [skipSpace, hc]

/-- The character can begin a value. -/
def BeginsValue (c : Char) : Prop :=
  isSpace c = false ∧ c ≠ ']'

instance (c : Char) : Decidable (BeginsValue c) :=
  inferInstanceAs (Decidable (_ ∧ _))

theorem beginsValue_of_isDigit {c : Char} (hc : isDigit c = true) : BeginsValue c := by
  refine ⟨?_, ne_of_isDigit hc rfl⟩
  simp only [isSpace, Bool.or_eq_false_iff, decide_eq_false_iff_not]
  exact ⟨⟨⟨ne_of_isDigit hc rfl, ne_of_isDigit hc rfl⟩, ne_of_isDigit hc rfl⟩, ne_of_isDigit hc rfl⟩

theorem exists_render_number {n : Number} (hn : n.IsNumeral) :
    ∃ c cs, n.render = c :: cs ∧ (c = '-' ∨ isDigit c = true) := by
  obtain ⟨d, ds, hwhole, hd⟩ := hn.exists_digit
  rw [Number.render_eq, hwhole]
  cases n.negative with
  | true => exact ⟨'-', _, rfl, .inl rfl⟩
  | false => exact ⟨d, _, rfl, .inr hd⟩

theorem exists_render {v : Value} (hv : v.IsProper) :
    ∃ c cs, v.render = c :: cs ∧ BeginsValue c := by
  cases v with
  | null => exact ⟨'n', _, rfl, by decide⟩
  | bool b => cases b <;> exact ⟨_, _, rfl, by decide⟩
  | number n =>
    obtain ⟨c, cs, hrender, rfl | hc⟩ := exists_render_number hv
    · exact ⟨'-', cs, hrender, by decide⟩
    · exact ⟨c, cs, hrender, beginsValue_of_isDigit hc⟩
  | string s => exact ⟨'"', _, rfl, by decide⟩
  | array items => exact ⟨'[', _, rfl, by decide⟩
  | object members => exact ⟨'\x7b', _, rfl, by decide⟩

/-! ## The reader on each kind of text -/

section

variable {fuel : Nat} {cs rest : List Char}

theorem readValue_number {c : Char} (hc : c = '-' ∨ isDigit c = true) :
    readValue (fuel + 1) (c :: cs) = (readNumber (c :: cs)).map fun (n, rest) => (.number n, rest) := by
  have hspace : isSpace c = false := by
    obtain rfl | hc := hc
    · rfl
    · exact (beginsValue_of_isDigit hc).1
  rw [readValue.eq_def]
  dsimp only
  rw [skipSpace_of_not_isSpace hspace]
  split
  case h_7 => rfl
  -- no other kind of value begins with such a character
  all_goals
    rename_i heq
    obtain ⟨rfl, -⟩ := List.cons.inj heq
    exact absurd hc (by decide)

theorem readValue_literal :
    readValue (fuel + 1) ('"' :: cs) = (readLiteral cs).map fun (s, rest) => (.string s, rest) := by
  rw [readValue.eq_def]
  rfl

theorem readValue_items {c : Char} (hc : BeginsValue c) :
    readValue (fuel + 1) ('[' :: c :: cs) =
      (readItems fuel [] (c :: cs)).map fun (items, rest) => (.array items, rest) := by
  rw [readValue.eq_def]
  simp only [skipSpace_of_not_isSpace (show isSpace '[' = false from rfl),
    skipSpace_of_not_isSpace hc.1]
  simp [hc.2]

theorem readValue_members :
    readValue (fuel + 1) ('\x7b' :: '"' :: cs) =
      (readMembers fuel [] ('"' :: cs)).map fun (ms, rest) => (.object ms, rest) := by
  rw [readValue.eq_def]
  rfl

variable {v : Value}

theorem readItems_comma {before : List Value} (hv : readValue fuel cs = some (v, ',' :: rest)) :
    readItems (fuel + 1) before cs = readItems fuel (v :: before) rest := by
  rw [readItems.eq_def]
  simp [hv, skipSpace, isSpace]

theorem readItems_bracket {before : List Value} (hv : readValue fuel cs = some (v, ']' :: rest)) :
    readItems (fuel + 1) before cs = some ((v :: before).reverse, rest) := by
  rw [readItems.eq_def]
  simp [hv, skipSpace, isSpace]

variable {before : List (Literal × Value)}

theorem readMembers_comma (key : String) (hv : readValue fuel cs = some (v, ',' :: rest)) :
    readMembers (fuel + 1) before (renderString key ++ ':' :: cs) =
      readMembers fuel ((some key, v) :: before) rest := by
  rw [readMembers.eq_def]
  simp [renderString, hv, skipSpace, isSpace, readLiteral_append]

theorem readMembers_brace (key : String) (hv : readValue fuel cs = some (v, '\x7d' :: rest)) :
    readMembers (fuel + 1) before (renderString key ++ ':' :: cs) =
      some (((some key, v) :: before).reverse, rest) := by
  rw [readMembers.eq_def]
  simp [renderString, hv, skipSpace, isSpace, readLiteral_append]

end

/-! ## Reading what is written -/

theorem exists_renderItems {v : Value} {vs : List Value} (hv : AreProper (v :: vs)) :
    ∃ c cs, renderItems (v :: vs) = c :: cs ∧ BeginsValue c := by
  obtain ⟨c, cs, hrender, hc⟩ := exists_render hv.1
  cases vs with
  | nil => exact ⟨c, cs, by rw [renderItems, hrender], hc⟩
  | cons w ws => exact ⟨c, _, by rw [renderItems, hrender, List.cons_append], hc⟩

theorem exists_renderMembers (key : String) (v : Value) (ms : List (Literal × Value)) :
    ∃ cs, renderMembers ((some key, v) :: ms) = '"' :: cs := by
  cases ms with
  | nil => exact ⟨_, rfl⟩
  | cons m ms => exact ⟨_, rfl⟩

mutual

/-- A value with a written form is read from it, up to anything that cannot go on with a number. -/
theorem readValue_render (fuel : Nat) (v : Value) (hv : v.IsProper) (rest : List Char)
    (hrest : EndsNumber rest) (hfuel : 2 * v.render.length ≤ fuel) :
    readValue fuel (v.render ++ rest) = some (v, rest) := by
  match fuel, v, hv with
  | 0, v, hv =>
    obtain ⟨c, cs, hrender, -⟩ := exists_render hv
    rw [hrender, List.length_cons] at hfuel
    omega
  | fuel + 1, .null, _ => rfl
  | fuel + 1, .bool true, _ => rfl
  | fuel + 1, .bool false, _ => rfl
  | fuel + 1, .number n, hn =>
    have hread := readNumber_render hn hrest
    obtain ⟨c, cs, hrender, hc⟩ := exists_render_number hn
    rw [Value.render]
    rw [hrender, List.cons_append] at hread ⊢
    rw [readValue_number hc, hread]
    rfl
  | fuel + 1, .string (some s), _ =>
    simp [Value.render, renderString, readValue_literal, readLiteral_append]
  | fuel + 1, .array [], _ => rfl
  | fuel + 1, .array (w :: ws), hitems =>
    simp only [Value.render, List.length_cons, List.length_append] at hfuel
    have hread := readItems_render fuel w ws hitems [] rest (by omega)
    obtain ⟨c, cs, hrender, hc⟩ := exists_renderItems hitems
    simp only [Value.render, List.append_assoc, List.cons_append, List.nil_append]
    rw [hrender, List.cons_append] at hread ⊢
    rw [readValue_items hc, hread]
    rfl
  | fuel + 1, .object [], _ => rfl
  | fuel + 1, .object ((some key, w) :: ms), hmembers =>
    simp only [Value.render, List.length_cons, List.length_append] at hfuel
    have hread := readMembers_render fuel key w ms hmembers [] rest (by omega)
    obtain ⟨cs, hrender⟩ := exists_renderMembers key w ms
    simp only [Value.render, List.append_assoc, List.cons_append, List.nil_append]
    rw [hrender, List.cons_append] at hread ⊢
    rw [readValue_members, hread]
    rfl

theorem readItems_render (fuel : Nat) (v : Value) (vs : List Value) (hvs : AreProper (v :: vs))
    (before : List Value) (rest : List Char)
    (hfuel : 2 * (renderItems (v :: vs)).length + 1 ≤ fuel) :
    readItems fuel before (renderItems (v :: vs) ++ ']' :: rest) =
      some (before.reverse ++ v :: vs, rest) := by
  match fuel, vs, hvs with
  | fuel + 1, [], ⟨hv, _⟩ =>
    simp only [renderItems] at hfuel
    have hread := readValue_render fuel v hv (']' :: rest) (by simp [EndsNumber, isDigit]) (by omega)
    rw [renderItems, readItems_bracket hread]
    simp
  | fuel + 1, w :: ws, ⟨hv, hws⟩ =>
    simp only [renderItems, List.length_append, List.length_cons] at hfuel
    have hread := readValue_render fuel v hv (',' :: (renderItems (w :: ws) ++ ']' :: rest))
      (by simp [EndsNumber, isDigit]) (by omega)
    have hitems := readItems_render fuel w ws hws (v :: before) rest (by omega)
    rw [renderItems, List.append_assoc, List.cons_append, readItems_comma hread, hitems]
    simp

theorem readMembers_render (fuel : Nat) (key : String) (v : Value) (ms : List (Literal × Value))
    (hms : MembersProper ((some key, v) :: ms)) (before : List (Literal × Value))
    (rest : List Char) (hfuel : 2 * (renderMembers ((some key, v) :: ms)).length + 1 ≤ fuel) :
    readMembers fuel before (renderMembers ((some key, v) :: ms) ++ '\x7d' :: rest) =
      some (before.reverse ++ (some key, v) :: ms, rest) := by
  match fuel, ms, hms with
  | fuel + 1, [], ⟨_, hv, _⟩ =>
    simp only [renderMembers, List.length_append, List.length_cons] at hfuel
    have hread := readValue_render fuel v hv ('\x7d' :: rest) (by simp [EndsNumber, isDigit])
      (by omega)
    rw [renderMembers, Option.getD_some, List.append_assoc, List.cons_append,
      readMembers_brace key hread]
    simp
  | fuel + 1, (some next, w) :: ms, ⟨_, hv, hms⟩ =>
    simp only [renderMembers, List.length_append, List.length_cons] at hfuel
    have hread := readValue_render fuel v hv
      (',' :: (renderMembers ((some next, w) :: ms) ++ '\x7d' :: rest))
      (by simp [EndsNumber, isDigit]) (by omega)
    have hmembers := readMembers_render fuel next w ms hms ((some key, v) :: before) rest (by omega)
    rw [renderMembers]
    simp only [Option.getD_some, List.append_assoc, List.cons_append]
    rw [readMembers_comma key hread, hmembers]
    simp

end

theorem parse?_render {v : Value} (hv : v.IsProper) : parse? v.render = some v := by
  have hread := readValue_render (2 * v.render.length + 2) v hv [] (by simp [EndsNumber]) (by omega)
  rw [List.append_nil] at hread
  rw [parse?, hread]
  rfl

theorem parse?_text {v : Value} (hv : v.IsProper) : parse? v.text.toList = some v := by
  rw [Value.text, String.toList_ofList, parse?_render hv]

end GossipPanel.Json
