/-!
# Ranges of code points

A `CodeRanges` is a list of closed ranges of code points, the form in which the character classes
of this library are tabulated; `CodeRanges.contains` looks a code point up.
-/

namespace ElasticPanels.Text

/-- Closed ranges of code points. -/
abbrev CodeRanges := List (Nat × Nat)

/-- Whether some range holds the code point `n`. -/
def CodeRanges.contains (ranges : CodeRanges) (n : Nat) : Bool :=
  ranges.any fun range => range.1 ≤ n && n ≤ range.2

end ElasticPanels.Text
