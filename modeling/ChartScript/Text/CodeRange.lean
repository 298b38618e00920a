/-!
# Character classes as ranges of code points

A character class of the Unicode standard is a union of ranges of code points.  `CodeRanges` is
such a union, and `CodeRanges.contains` is membership in it; the classes themselves are in
`Text.Blank`, `Text.Digit`, `Text.Printable` and `Text.WordChar`.
-/

set_option autoImplicit false

namespace ChartScript
namespace Text

/-- Ranges of code points, both ends included. -/
abbrev CodeRanges := List (Nat × Nat)

/-- Whether a code point lies in one of the ranges. -/
def CodeRanges.contains (ranges : CodeRanges) (code : Nat) : Bool :=
  ranges.any fun range => range.1 ≤ code && code ≤ range.2

theorem CodeRanges.contains_iff (ranges : CodeRanges) (code : Nat) :
    ranges.contains code = true ↔ ∃ range ∈ ranges, range.1 ≤ code ∧ code ≤ range.2 := by
  simp [CodeRanges.contains]

end Text
end ChartScript
