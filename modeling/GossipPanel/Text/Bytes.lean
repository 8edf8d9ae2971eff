/-!
# Texts measured in UTF-8 bytes

* `byteLength` is the number of bytes of a text.
* `splitAtByte` cuts a text after so many bytes; `dropBytes?` refuses offsets that lie outside the
  text or inside a character.
-/

namespace GossipPanel.Text

/-- Number of UTF-8 bytes. -/
def byteLength : List Char → Nat
  | [] => 0
  | c :: cs => c.utf8Size + byteLength cs

/-- The characters that end within the first `n` bytes, and the others. -/
def splitAtByte (n : Nat) : List Char → List Char × List Char
  | [] => ([], [])
  | c :: cs =>
    if c.utf8Size ≤ n then
      let (before, after) := splitAtByte (n - c.utf8Size) cs
      (c :: before, after)
    else ([], c :: cs)

/-- The text after its first `n` bytes, if byte `n` is a character boundary of the text. -/
def dropBytes? (n : Nat) : List Char → Option (List Char)
  | [] => if n = 0 then some [] else none
  | c :: cs =>
    if n = 0 then some (c :: cs)
    else if c.utf8Size ≤ n then dropBytes? (n - c.utf8Size) cs
    else none

/-- The text of the first `n` bytes, if byte `n` is a character boundary of the text. -/
def takeBytes? (n : Nat) : List Char → Option (List Char)
  | [] => if n = 0 then some [] else none
  | c :: cs =>
    if n = 0 then some []
    else if c.utf8Size ≤ n then (takeBytes? (n - c.utf8Size) cs).map (c :: ·)
    else none

/-! ## Lengths and cuts -/

@[simp]
theorem byteLength_append (as bs : List Char) :
    byteLength (as ++ bs) = byteLength as + byteLength bs := by
  induction as with
  | nil => simp [byteLength]
  | cons c cs ih => simp [byteLength, ih, Nat.add_assoc]

theorem byteLength_ofList (cs : List Char) : (String.ofList cs).utf8ByteSize = byteLength cs := by
  induction cs with
  | nil => rfl
  | cons c cs ih =>
    rw [String.ofList_cons, String.utf8ByteSize_append, String.utf8ByteSize_singleton, ih]
    rfl

theorem byteLength_toList (s : String) : byteLength s.toList = s.utf8ByteSize := by
  rw [← byteLength_ofList, String.ofList_toList]

theorem splitAtByte_append (n : Nat) (cs : List Char) :
    (splitAtByte n cs).1 ++ (splitAtByte n cs).2 = cs := by
  induction cs generalizing n with
  | nil => rfl
  | cons c cs ih =>
    rw [splitAtByte]
    split
    · simp [ih]
    · rfl

theorem splitAtByte_byteLength (as bs : List Char) :
    splitAtByte (byteLength as) (as ++ bs) = (as, bs) := by
  induction as with
  | nil =>
    cases bs with
    | nil => rfl
    | cons b bs =>
      have := Char.utf8Size_pos b
      simp [byteLength, splitAtByte, Nat.not_le.2 this]
  | cons a as ih => simp [byteLength, splitAtByte, ih]

theorem dropBytes?_byteLength (as bs : List Char) :
    dropBytes? (byteLength as) (as ++ bs) = some bs := by
  induction as with
  | nil => cases bs <;> simp [byteLength, dropBytes?]
  | cons a as ih =>
    have := Char.utf8Size_pos a
    have h : a.utf8Size ≠ 0 := by omega
    simp [byteLength, dropBytes?, h, ih]

theorem takeBytes?_byteLength (as bs : List Char) :
    takeBytes? (byteLength as) (as ++ bs) = some as := by
  induction as with
  | nil => cases bs <;> simp [byteLength, takeBytes?]
  | cons a as ih =>
    have := Char.utf8Size_pos a
    have h : a.utf8Size ≠ 0 := by omega
    simp [byteLength, takeBytes?, h, ih]

theorem byteLength_eq_zero_iff {cs : List Char} : byteLength cs = 0 ↔ cs = [] := by
  cases cs with
  | nil => simp [byteLength]
  | cons c cs =>
    have := Char.utf8Size_pos c
    simp [byteLength]
    omega

theorem dropBytes?_eq_some_iff {n : Nat} {cs after : List Char} :
    dropBytes? n cs = some after ↔ ∃ before, cs = before ++ after ∧ byteLength before = n := by
  constructor
  · intro h
    induction cs generalizing n with
    | nil =>
      rw [dropBytes?] at h
      split at h
      · next hn => exact ⟨[], by simpa using h, hn.symm⟩
      · cases h
    | cons c cs ih =>
      rw [dropBytes?] at h
      split at h
      · next hn => exact ⟨[], by simpa using h, hn.symm⟩
      · split at h
        · next hle =>
          obtain ⟨before, rfl, hbefore⟩ := ih h
          exact ⟨c :: before, rfl, by rw [byteLength, hbefore]; omega⟩
        · cases h
  · rintro ⟨before, rfl, rfl⟩
    exact dropBytes?_byteLength before after

end GossipPanel.Text
