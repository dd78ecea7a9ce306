/-!
# Classes of characters as ranges of code points

A character class of the Unicode standard (version 14.0 throughout) is a list of closed ranges,
ascending and apart. `CodeRanges.contains` is the one lookup that every class goes through.
-/

namespace Keyspan.Text

/-- Closed ranges of code points, ascending and apart. -/
abbrev CodeRanges := List (Nat × Nat)

/-- Whether a code point lies in one of the ranges. -/
def CodeRanges.contains (ranges : CodeRanges) (code : Nat) : Bool :=
  ranges.any fun r => decide (r.1 ≤ code) && decide (code ≤ r.2)

theorem CodeRanges.contains_iff (ranges : CodeRanges) (code : Nat) :
    ranges.contains code = true ↔ ∃ r ∈ ranges, r.1 ≤ code ∧ code ≤ r.2 := by
  simp [CodeRanges.contains]

end Keyspan.Text
