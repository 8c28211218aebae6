/-!
# Ranges of characters

Properties of characters are given by ranges of code points.
-/

namespace SimilarItems.Text

/-- Ranges of code points, each given by its first and its last. -/
abbrev CodeRanges := List (Nat × Nat)

/-- Whether a character lies in one of the ranges. -/
def CodeRanges.contains (rs : CodeRanges) (c : Char) : Bool :=
  rs.any fun r => r.1 ≤ c.toNat && c.toNat ≤ r.2

end SimilarItems.Text
