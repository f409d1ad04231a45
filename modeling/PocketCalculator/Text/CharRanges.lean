import PocketCalculator.Text.Basic

/-!
# Ranges of characters

## Sets given by a table

A set of characters is given as a list of closed ranges of code points.
-/

namespace PocketCalculator

abbrev CharRanges := List (Nat × Nat)

namespace CharRanges

def contains (ranges : CharRanges) (c : Char) : Bool :=
  ranges.any fun range => range.1 ≤ c.toNat && c.toNat ≤ range.2

theorem contains_eq_true_iff (ranges : CharRanges) (c : Char) :
    ranges.contains c = true ↔
      exists range, range ∈ ranges ∧ range.1 ≤ c.toNat ∧ c.toNat ≤ range.2 := by
  simp [contains]

end CharRanges

end PocketCalculator
