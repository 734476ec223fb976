/-!
# Ranges of code points

A set of characters is given by the first and last code points of its ranges, ascending.
-/

namespace CostView.Text

/-- Whether a number lies in one of some ascending ranges. -/
def inRanges : List (Nat × Nat) → Nat → Bool
  | [], _ => false
  | range :: rest, n => if range.2 < n then inRanges rest n else range.1 ≤ n

end CostView.Text
