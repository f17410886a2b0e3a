/-!
# Ranges of code points

A set of characters is written as its ranges of code points, lowest first.
-/

namespace Permit.Text

/-- Both ends belong to their range, and the ranges ascend. -/
def inRanges : List (Nat × Nat) → Nat → Bool
  | [], _ => false
  | (low, high) :: rest, n => if n < low then false else n ≤ high || inRanges rest n

theorem inRanges_of_lt {low high n : Nat} {rest : List (Nat × Nat)} (h : n < low) :
    inRanges ((low, high) :: rest) n = false := by
  simp [inRanges, h]

end Permit.Text
