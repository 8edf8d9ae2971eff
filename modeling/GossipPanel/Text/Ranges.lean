/-!
# Sets of characters given by ranges

A property of characters is a list of ranges of code points, both ends included.
-/

namespace GossipPanel.Text

/-- A set of code points: ranges with both ends included. -/
abbrev Ranges := List (Nat × Nat)

/-- The code point `n` lies in one of the ranges. -/
def Ranges.has (rs : Ranges) (n : Nat) : Bool :=
  rs.any fun (lo, hi) => decide (lo ≤ n) && decide (n ≤ hi)

end GossipPanel.Text
