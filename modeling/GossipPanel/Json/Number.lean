import GossipPanel.Json.Basic
import GossipPanel.Text.Numeral

/-!
# The numbers that a JSON number names

* `Number.nat?` is the value of a plain unsigned numeral: no sign, no point, no exponent.
* `Number.isFinite` says whether the number stays below the largest double. It follows the usual
  fast conversion: at most 64 bits of leading digits, rounded to 53 bits, times a rounded power of
  ten.
-/

namespace GossipPanel.Json

open Text

/-- The value of a numeral without sign, fraction and exponent. -/
def Number.nat? (n : Number) : Option Nat :=
  if n.negative || !n.fraction.isEmpty || n.exponent.isSome then none
  else digitsValue? 0 n.whole

/-- `n` rounded to 53 significant bits, a tie to the even neighbour. -/
def roundBits (n : Nat) : Nat :=
  let extra := n.log2 - 52
  let unit := 1 <<< extra
  let q := n / unit
  let r := n % unit
  if 2 * r > unit ∨ (2 * r = unit ∧ q % 2 = 1) then (q + 1) * unit else q * unit

/-- The least number that rounds past the largest double. -/
def doubleLimit : Nat :=
  (1 <<< 1024) - (1 <<< 970)

/-- Leading digits as a 64-bit number; then the power of ten that the remaining digits stand for,
`keep` telling whether a digit that does not fit still counts as a place. -/
def accumulate (keep : Bool) (acc : Nat × Int) : List Char → Nat × Int
  | [] => acc
  | c :: cs =>
    let next := 10 * acc.1 + (digit? c).getD 0
    if next < UInt64.size then
      accumulate keep (next, if keep then acc.2 else acc.2 - 1) cs
    else if keep then (acc.1, acc.2 + (c :: cs).length)
    else acc

/-- The leading digits and the power of ten of a number. -/
def Number.scientific (n : Number) : Nat × Int :=
  let whole := accumulate true (0, 0) n.whole
  let (m, e) := accumulate false whole n.fraction
  match n.exponent with
  | none => (m, e)
  | some (minus, digits) =>
    let x : Int := ((digitsValue? 0 digits).getD 0 : Nat)
    (m, if minus then e - x else e + x)

/-- The number is not past the largest double. -/
def Number.isFinite (n : Number) : Bool :=
  let (m, e) := n.scientific
  if m = 0 then true
  else if e < 0 then true
  else if e > 308 then false
  else roundBits m * roundBits (Nat.pow 10 e.toNat) < doubleLimit

end GossipPanel.Json
