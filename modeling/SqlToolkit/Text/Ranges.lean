/-!
# Sets of code points

A character property is a list of closed ranges of code points. Membership is a plain search, so
a table can be read by a proof as well as by the program.
-/

namespace SqlToolkit.Text

/-- Closed ranges of code points, in increasing order. -/
abbrev CodeRanges := List (Nat × Nat)

def CodeRanges.has (ranges : CodeRanges) (code : Nat) : Bool :=
  ranges.any fun range => range.1 ≤ code && code ≤ range.2

theorem CodeRanges.has_iff {ranges : CodeRanges} {code : Nat} :
    ranges.has code = true ↔ ∃ range ∈ ranges, range.1 ≤ code ∧ code ≤ range.2 := by
  simp [CodeRanges.has, List.any_eq_true]

end SqlToolkit.Text
