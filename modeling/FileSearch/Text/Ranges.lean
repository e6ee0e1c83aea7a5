/-
This file looks characters up in tables of ranges.
-/

namespace FileSearch.Text

/-- The ranges of a table ascend, so that the search ends at the first range above the number. -/
def inRanges : List (Nat × Nat) → Nat → Bool
  | [], _ => false
  | (first, last) :: ranges, number =>
    first ≤ number && (number ≤ last || inRanges ranges number)

end FileSearch.Text
