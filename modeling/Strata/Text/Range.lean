/-!
Sets of code points given as lists of closed ranges, the form in which the tables of Unicode
properties are written.
-/

namespace Strata.Text

/-- Whether a code point lies in one of the ranges. -/
def inRanges (ranges : List (Nat × Nat)) (n : Nat) : Bool :=
  ranges.any fun r => r.1 ≤ n && n ≤ r.2

end Strata.Text
