/-!
# Decimal numerals

* `readNat? limit` reads an optional `+` and decimal digits, for values up to `limit`.
* `hexDigit?` and `hexDigits` relate hexadecimal digits and their values.
-/

namespace GossipPanel.Text

/-- The value of a decimal digit. -/
def digit? (c : Char) : Option Nat :=
  if '0' ≤ c ∧ c ≤ '9' then some (c.toNat - '0'.toNat) else none

/-- The value of the digits `cs` written after digits of value `acc`. -/
def digitsValue? (acc : Nat) : List Char → Option Nat
  | [] => some acc
  | c :: cs => (digit? c).bind fun d => digitsValue? (10 * acc + d) cs

/-- The value of a numeral: an optional `+`, then one or more digits, at most `limit`. -/
def readNat? (limit : Nat) (cs : List Char) : Option Nat :=
  let digits := if cs.head? = some '+' then cs.tail else cs
  if digits.isEmpty then none
  else (digitsValue? 0 digits).filter (· ≤ limit)

/-- A 32-bit unsigned numeral. -/
def readUInt32? (s : String) : Option UInt32 :=
  (readNat? 4294967295 s.toList).map UInt32.ofNat

/-- A 64-bit unsigned numeral. -/
def readUInt64? (s : String) : Option UInt64 :=
  (readNat? 18446744073709551615 s.toList).map UInt64.ofNat

/-- The value of a hexadecimal digit of either case. -/
def hexDigit? (c : Char) : Option Nat :=
  if '0' ≤ c ∧ c ≤ '9' then some (c.toNat - '0'.toNat)
  else if 'a' ≤ c ∧ c ≤ 'f' then some (c.toNat - 'a'.toNat + 10)
  else if 'A' ≤ c ∧ c ≤ 'F' then some (c.toNat - 'A'.toNat + 10)
  else none

/-- The lower-case hexadecimal digits of `n`, without leading zeros. -/
def hexDigits (n : Nat) : List Char :=
  Nat.toDigits 16 n

def decimal (n : Nat) : String :=
  String.ofList (Nat.toDigits 10 n)

/-! ## Numerals that can be read -/

/-- The text is a numeral of value `n`: one or more decimal digits, possibly behind a plus sign. -/
def IsNumeral (cs : List Char) (n : Nat) : Prop :=
  ∃ digits, (cs = digits ∨ cs = '+' :: digits) ∧ digits ≠ [] ∧
    (∀ c ∈ digits, '0' ≤ c ∧ c ≤ '9') ∧ Nat.ofDigitChars 10 digits 0 = n

theorem digitsValue?_eq_some_iff {acc n : Nat} {cs : List Char} :
    digitsValue? acc cs = some n ↔
      (∀ c ∈ cs, '0' ≤ c ∧ c ≤ '9') ∧ Nat.ofDigitChars 10 cs acc = n := by
  induction cs generalizing acc with
  | nil => simp [digitsValue?]
  | cons c cs ih =>
    rw [digitsValue?, digit?]
    by_cases hc : '0' ≤ c ∧ c ≤ '9'
    · rw [if_pos hc, Option.bind_some, ih, Nat.ofDigitChars_cons, List.forall_mem_cons]
      exact ⟨fun h => ⟨⟨hc, h.1⟩, h.2⟩, fun h => ⟨h.1.2, h.2⟩⟩
    · rw [if_neg hc, Option.bind_none]
      constructor
      · intro h
        exact absurd h (by simp)
      · intro h
        exact absurd (h.1 c List.mem_cons_self) hc

theorem readNat?_eq_some_iff {limit n : Nat} {cs : List Char} :
    readNat? limit cs = some n ↔ IsNumeral cs n ∧ n ≤ limit := by
  have hplus : ¬('0' ≤ '+' ∧ '+' ≤ '9') := by decide
  have hdigits : ∀ digits : List Char,
      (if digits.isEmpty then none else (digitsValue? 0 digits).filter (· ≤ limit)) = some n ↔
        (digits ≠ [] ∧ (∀ c ∈ digits, '0' ≤ c ∧ c ≤ '9') ∧ Nat.ofDigitChars 10 digits 0 = n) ∧
          n ≤ limit := by
    intro digits
    cases digits with
    | nil => simp
    | cons d ds =>
      simp [Option.filter_eq_some_iff, digitsValue?_eq_some_iff]
  rw [readNat?, hdigits]
  refine and_congr_left fun _ => ?_
  by_cases hsign : cs.head? = some '+'
  · obtain ⟨rest, rfl⟩ := List.head?_eq_some_iff.1 hsign
    rw [if_pos hsign, List.tail_cons]
    constructor
    · intro h
      exact ⟨rest, .inr rfl, h⟩
    · rintro ⟨digits, rfl | hcs, h⟩
      · exact absurd (h.2.1 '+' List.mem_cons_self) hplus
      · rwa [(List.cons.inj hcs).2]
  · rw [if_neg hsign]
    constructor
    · intro h
      exact ⟨cs, .inl rfl, h⟩
    · rintro ⟨digits, rfl | rfl, h⟩
      · exact h
      · exact absurd rfl hsign

theorem readUInt32?_eq_some_iff {s : String} {n : UInt32} :
    readUInt32? s = some n ↔ IsNumeral s.toList n.toNat := by
  rw [readUInt32?, Option.map_eq_some_iff]
  constructor
  · rintro ⟨m, hm, rfl⟩
    obtain ⟨hnumeral, hle⟩ := readNat?_eq_some_iff.1 hm
    have hlt : m < UInt32.size := Nat.lt_succ_of_le hle
    rwa [UInt32.toNat_ofNat_of_lt' hlt]
  · intro h
    have hlt := n.toNat_lt
    exact ⟨n.toNat, readNat?_eq_some_iff.2 ⟨h, by omega⟩, UInt32.ofNat_toNat⟩

end GossipPanel.Text
