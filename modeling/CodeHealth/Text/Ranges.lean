/-!
# Sets of characters given by ranges of code points

A property of characters is stored as a list of inclusive ranges in increasing order. The search
stops at the first range that starts above the character, so the common small code points are
decided after a few comparisons.
-/

namespace CodeHealth.Text

/-- Whether `n` lies in one of the ranges of an increasing list: the search ends at the first range
that starts above `n`. -/
def inRanges : List (Nat × Nat) → Nat → Bool
  | [], _ => false
  | (lo, hi) :: rest, n => if n < lo then false else if n ≤ hi then true else inRanges rest n

end CodeHealth.Text
