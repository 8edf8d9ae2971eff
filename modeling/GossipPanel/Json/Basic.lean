/-!
# JSON values

A value keeps what the reader saw: numbers as they are written, members in their order with all
repetitions, and string literals whose escapes leave a surrogate without its partner.
-/

namespace GossipPanel.Json

/-- The text of a string literal; `none` when an escape leaves a surrogate without its partner. -/
abbrev Literal := Option String

structure Number where
  /-- A minus sign stands in front. -/
  negative : Bool := false
  whole : List Char
  /-- The digits after the point. -/
  fraction : List Char := []
  /-- The sign (`true` for minus) and digits of the exponent. -/
  exponent : Option (Bool × List Char) := none
  deriving DecidableEq, Repr

inductive Value where
  | null
  | bool (b : Bool)
  | number (n : Number)
  | string (s : Literal)
  | array (items : List Value)
  | object (members : List (Literal × Value))
  deriving Repr

end GossipPanel.Json
