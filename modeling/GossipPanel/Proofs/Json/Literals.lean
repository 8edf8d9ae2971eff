import GossipPanel.Json.Number
import GossipPanel.Json.Printer
import GossipPanel.Json.Reader
import Mathlib.Data.Nat.Digits.Defs

/-!
# Written literals and numerals are read back

* `exists_unit`: the escape of a character is read as one unit, which stands for that character.
* `readLiteral_append`: a string literal is read up to its closing quote.
* `Number.IsNumeral`: the numbers that have a written form; `readNumber_render` reads it up to
  anything that cannot go on with it.
* `nat?_ofNat`: a natural number is the value of the numeral that is written for it.
-/

namespace GossipPanel.Json

open Text

/-! ## String literals -/

theorem hex4?_of_control : ∀ n < 0x20,
    hex4? '0' '0' (Nat.digitChar (n / 16)) (Nat.digitChar (n % 16)) = some n := by
  decide

theorem readUnits_quote (before : List Unit) (rest : List Char) :
    readUnits before ('"' :: rest) = some (before.reverse, rest) := by
  rw [readUnits.eq_def]
  rfl

theorem readUnits_plain {c : Char} (hquote : c ≠ '"') (hbackslash : c ≠ '\\')
    (hcontrol : ¬c.toNat < 0x20) (before : List Unit) (rest : List Char) :
    readUnits before (c :: rest) = readUnits (.char c :: before) rest := by
  rw [readUnits.eq_def]
  dsimp only
  rw [if_neg hquote, if_neg hbackslash, if_neg hcontrol]

theorem exists_unit (c : Char) :
    ∃ u : Unit, (∀ before rest, readUnits before (escape c ++ rest) = readUnits (u :: before) rest) ∧
      ∀ before us, joinUnits before (u :: us) = joinUnits (c :: before) us := by
  unfold escape
  split
  · exact ⟨.char '"', fun _ _ => by simp [readUnits, shortEscape?], fun _ _ => rfl⟩
  · exact ⟨.char '\\', fun _ _ => by simp [readUnits, shortEscape?], fun _ _ => rfl⟩
  · exact ⟨.char '\x08', fun _ _ => by simp [readUnits, shortEscape?], fun _ _ => rfl⟩
  · exact ⟨.char '\x0c', fun _ _ => by simp [readUnits, shortEscape?], fun _ _ => rfl⟩
  · exact ⟨.char '\n', fun _ _ => by simp [readUnits, shortEscape?], fun _ _ => rfl⟩
  · exact ⟨.char '\r', fun _ _ => by simp [readUnits, shortEscape?], fun _ _ => rfl⟩
  · exact ⟨.char '\t', fun _ _ => by simp [readUnits, shortEscape?], fun _ _ => rfl⟩
  · rename_i hquote hbackslash _ _ _ _ _
    by_cases hcontrol : c.toNat < 0x20
    · -- a control character is written as its code, which is no surrogate
      have hhex := hex4?_of_control c.toNat hcontrol
      have hhigh : isHighSurrogate c.toNat = false := by simp [isHighSurrogate]; omega
      have hlow : isLowSurrogate c.toNat = false := by simp [isLowSurrogate]; omega
      rw [if_pos hcontrol]
      refine ⟨.code c.toNat, fun before rest => ?_, fun before us => ?_⟩
      · rw [readUnits.eq_def]
        simp [hhex]
      · rw [joinUnits.eq_def]
        simp [hhigh, hlow]
    · rw [if_neg hcontrol]
      exact ⟨.char c, readUnits_plain hquote hbackslash hcontrol, fun _ _ => rfl⟩

theorem readUnits_append (cs : List Char) (before : List Unit) (rest : List Char) :
    ∃ us, readUnits before (cs.flatMap escape ++ '"' :: rest) = some (before.reverse ++ us, rest) ∧
      ∀ joined, joinUnits joined us = some (joined.reverse ++ cs) := by
  induction cs generalizing before with
  | nil => exact ⟨[], by simp [readUnits_quote], fun joined => by simp [joinUnits]⟩
  | cons c cs ih =>
    obtain ⟨u, hread, hjoin⟩ := exists_unit c
    obtain ⟨us, hrest, hjoined⟩ := ih (u :: before)
    refine ⟨u :: us, ?_, fun joined => ?_⟩
    · rw [List.flatMap_cons, List.append_assoc, hread, hrest]
      simp
    · rw [hjoin, hjoined]
      simp

theorem readLiteral_append (s : String) (rest : List Char) :
    readLiteral (s.toList.flatMap escape ++ '"' :: rest) = some (some s, rest) := by
  obtain ⟨us, hread, hjoin⟩ := readUnits_append s.toList [] rest
  simp [readLiteral, hread, hjoin]

/-! ## Numerals -/

theorem ne_of_isDigit {c d : Char} (hc : isDigit c = true) (hd : isDigit d = false) : c ≠ d := by
  rintro rfl
  rw [hc] at hd
  exact Bool.noConfusion hd

/-- One or more digits. -/
def IsDigits (ds : List Char) : Prop :=
  ds ≠ [] ∧ ∀ c ∈ ds, isDigit c = true

/-- What stands behind a number cannot go on with it. -/
def EndsNumber (rest : List Char) : Prop :=
  ∀ c ∈ rest.head?, isDigit c = false ∧ c ≠ '.' ∧ c ≠ 'e' ∧ c ≠ 'E'

/-- The number is written as a numeral: a zero or digits that do not begin with one, then the
digits of a fraction and of an exponent, if it has them. -/
structure Number.IsNumeral (n : Number) : Prop where
  whole : n.whole = ['0'] ∨ (IsDigits n.whole ∧ n.whole.head? ≠ some '0')
  fraction : ∀ c ∈ n.fraction, isDigit c = true
  exponent : ∀ e ∈ n.exponent, IsDigits e.2

theorem Number.IsNumeral.exists_digit {n : Number} (hn : n.IsNumeral) :
    ∃ d ds, n.whole = d :: ds ∧ isDigit d = true := by
  obtain hzero | ⟨⟨hne, hall⟩, -⟩ := hn.whole
  · exact ⟨'0', [], hzero, rfl⟩
  · obtain ⟨d, ds, hwhole⟩ := List.exists_cons_of_ne_nil hne
    exact ⟨d, ds, hwhole, hall d (by simp [hwhole])⟩

theorem readDigits_append {ds rest : List Char} (hds : IsDigits ds)
    (hrest : ∀ c ∈ rest.head?, isDigit c = false) :
    readDigits (ds ++ rest) = some (ds, rest) := by
  have htake : rest.takeWhile isDigit = [] := by
    cases rest with
    | nil => rfl
    | cons c rest => simp [hrest c rfl]
  have hdrop : rest.dropWhile isDigit = rest := by
    cases rest with
    | nil => rfl
    | cons c rest => simp [hrest c rfl]
  rw [readDigits, List.takeWhile_append_of_pos hds.2, List.dropWhile_append_of_pos hds.2, htake,
    hdrop, List.append_nil]
  cases ds with
  | nil => exact absurd rfl hds.1
  | cons d ds => rfl

theorem readWhole_append {whole rest : List Char}
    (hwhole : whole = ['0'] ∨ (IsDigits whole ∧ whole.head? ≠ some '0'))
    (hrest : ∀ c ∈ rest.head?, isDigit c = false) :
    readWhole (whole ++ rest) = some (whole, rest) := by
  obtain rfl | ⟨hdigits, hzero⟩ := hwhole
  · cases rest with
    | nil => rfl
    | cons c rest => simp [readWhole, hrest c rfl]
  · rw [readWhole.eq_def]
    split
    · rename_i cs heq
      cases whole with
      | nil => exact absurd rfl hdigits.1
      | cons d ds =>
        rw [List.cons_append] at heq
        exact absurd (congrArg some (List.cons.inj heq).1) hzero
    · exact readDigits_append hdigits hrest

theorem not_isDigit_append {cs rest : List Char} (hcs : ∀ c ∈ cs.head?, isDigit c = false)
    (hrest : ∀ c ∈ rest.head?, isDigit c = false) : ∀ c ∈ (cs ++ rest).head?, isDigit c = false := by
  cases cs with
  | nil => exact hrest
  | cons d ds => exact hcs

def renderFraction (fraction : List Char) : List Char :=
  if fraction.isEmpty then [] else '.' :: fraction

def renderExponent : Option (Bool × List Char) → List Char
  | none => []
  | some (minus, digits) => 'e' :: (if minus then ['-'] else []) ++ digits

theorem readFraction_append {fraction rest : List Char}
    (hfraction : ∀ c ∈ fraction, isDigit c = true)
    (hrest : ∀ c ∈ rest.head?, isDigit c = false ∧ c ≠ '.') :
    readFraction (renderFraction fraction ++ rest) = some (fraction, rest) := by
  cases fraction with
  | nil =>
    show readFraction rest = _
    cases rest with
    | nil => rfl
    | cons c rest =>
      rw [readFraction.eq_def]
      simp [(hrest c rfl).2]
  | cons d ds =>
    show readDigits (d :: ds ++ rest) = _
    exact readDigits_append ⟨by simp, hfraction⟩ fun c hc => (hrest c hc).1

theorem readExponent_append {exponent : Option (Bool × List Char)} {rest : List Char}
    (hexponent : ∀ e ∈ exponent, IsDigits e.2)
    (hrest : EndsNumber rest) :
    readExponent (renderExponent exponent ++ rest) = some (exponent, rest) := by
  cases exponent with
  | none =>
    show readExponent rest = _
    cases rest with
    | nil => rfl
    | cons c rest =>
      obtain ⟨-, -, he, hE⟩ := hrest c rfl
      simp [readExponent, he, hE]
  | some e =>
    obtain ⟨minus, ds⟩ := e
    have hds := hexponent _ rfl
    have hread := readDigits_append hds fun c hc => (hrest c hc).1
    cases minus with
    | true => simp [renderExponent, readExponent, hread]
    | false =>
      -- the sign is left out before the first digit
      cases ds with
      | nil => exact absurd rfl hds.1
      | cons d ds =>
        have hd : isDigit d = true := hds.2 d (by simp)
        have hminus : d ≠ '-' := ne_of_isDigit hd rfl
        have hplus : d ≠ '+' := ne_of_isDigit hd rfl
        simp only [List.cons_append] at hread
        simp [renderExponent, readExponent, hminus, hplus, hread]

theorem Number.render_eq (n : Number) :
    n.render = (if n.negative then ['-'] else []) ++ n.whole ++ renderFraction n.fraction ++
      renderExponent n.exponent := by
  rw [Number.render.eq_def]
  rcases n.exponent with _ | ⟨minus, digits⟩ <;> rfl

theorem readNumber_render {n : Number} (hn : n.IsNumeral) {rest : List Char}
    (hrest : EndsNumber rest) : readNumber (n.render ++ rest) = some (n, rest) := by
  obtain ⟨negative, whole, fraction, exponent⟩ := n
  have hexponent := readExponent_append hn.exponent hrest
  have hfraction : readFraction (renderFraction fraction ++ (renderExponent exponent ++ rest)) =
      some (fraction, renderExponent exponent ++ rest) := by
    refine readFraction_append hn.fraction ?_
    rcases exponent with _ | ⟨minus, ds⟩
    · exact fun c hc => ⟨(hrest c hc).1, (hrest c hc).2.1⟩
    · simp [renderExponent, isDigit]
  have hwhole : readWhole (whole ++ (renderFraction fraction ++ (renderExponent exponent ++ rest))) =
      some (whole, renderFraction fraction ++ (renderExponent exponent ++ rest)) := by
    refine readWhole_append hn.whole (not_isDigit_append ?_ (not_isDigit_append ?_ ?_))
    · rcases fraction with _ | ⟨d, ds⟩ <;> simp [renderFraction, isDigit]
    · rcases exponent with _ | ⟨minus, ds⟩ <;> simp [renderExponent, isDigit]
    · exact fun c hc => (hrest c hc).1
  rw [Number.render_eq]
  cases negative with
  | true => simp [readNumber, hwhole, hfraction, hexponent]
  | false =>
    obtain ⟨d, ds, rfl, hd⟩ := hn.exists_digit
    simp only [List.cons_append] at hwhole
    have hminus : d ≠ '-' := ne_of_isDigit hd rfl
    simp [readNumber, hminus, hwhole, hfraction, hexponent]

/-! ## Natural numbers -/

theorem isDigit_of_mem_toDigits {n : Nat} {c : Char} (h : c ∈ Nat.toDigits 10 n) :
    isDigit c = true := by
  have hdigit := Nat.isDigit_of_mem_toDigits (by decide) (by decide) h
  simpa [isDigit, Char.isDigit, Char.le_def] using hdigit

theorem isDigits_toDigits (n : Nat) : IsDigits (Nat.toDigits 10 n) :=
  ⟨Nat.toDigits_ne_nil, fun _ => isDigit_of_mem_toDigits⟩

theorem digitChar_ne_zero : ∀ n < 10, 0 < n → Nat.digitChar n ≠ '0' := by
  decide

theorem head?_toDigits_ne {n : Nat} (hn : 0 < n) : (Nat.toDigits 10 n).head? ≠ some '0' := by
  induction n using Nat.strongRecOn with
  | _ n ih =>
    by_cases hsmall : n < 10
    · rw [Nat.toDigits_of_lt_base hsmall]
      simpa using digitChar_ne_zero n hsmall hn
    · obtain ⟨d, ds, hds⟩ := List.exists_cons_of_ne_nil (Nat.toDigits_ne_nil (n := n / 10) (b := 10))
      have hlead := ih (n / 10) (by omega) (by omega)
      rw [Nat.toDigits_of_base_le (by decide) (by omega), hds]
      rwa [hds] at hlead

theorem isNumeral_ofNat (n : Nat) : (Number.ofNat n).IsNumeral where
  whole := by
    by_cases hn : n = 0
    · subst hn
      exact .inl (Nat.toDigits_zero 10)
    · exact .inr ⟨isDigits_toDigits n, head?_toDigits_ne (by omega)⟩
  fraction := by simp [Number.ofNat]
  exponent := by simp [Number.ofNat]

theorem digitsValue?_eq_ofDigitChars {cs : List Char} (hcs : ∀ c ∈ cs, isDigit c = true)
    (acc : Nat) : digitsValue? acc cs = some (Nat.ofDigitChars 10 cs acc) :=
  digitsValue?_eq_some_iff.2 ⟨fun c hc => by simpa [isDigit] using hcs c hc, rfl⟩

theorem nat?_ofNat (n : Nat) : (Number.ofNat n).nat? = some n := by
  have hvalue := digitsValue?_eq_ofDigitChars (isDigits_toDigits n).2 0
  rw [Nat.ofDigitChars_toDigits (by decide) (by decide)] at hvalue
  simpa [Number.nat?, Number.ofNat] using hvalue

end GossipPanel.Json
