import SimilarItems.Binary64.Basic

/-!
# Rounding to binary64

A positive real number given as a quotient of naturals is rounded to the nearest binary64
magnitude, and of two nearest ones to the even one. All operations and all readers of decimal
numbers round through `Binary64.nearest`, once each.
-/

namespace SimilarItems

attribute [local instance (high)] instPowNat

/-- The integer nearest to `num / den`; of two nearest ones, the even one. -/
def roundHalfEven (num den : Nat) : Nat :=
  let q := num / den
  let r := num % den
  if 2 * r < den then q
  else if den < 2 * r then q + 1
  else q + q % 2

namespace Binary64

/-- The magnitude nearest to `num / den` units, ties to even.

The spacing of magnitudes around the quotient is `2 ^ e` units, where `e` is zero for subnormal
numbers and for normal ones leaves 53 significant bits. The rounded significand then counts on from
the magnitude of that binade's first number, also when it is carried into the next binade. What
would reach the exponent field of infinity is infinite. -/
def nearest (num den : Nat) : Nat :=
  let e := Nat.log2 (num / den) - 52
  min infiniteMagnitude (e * 2 ^ (52 : Nat) + roundHalfEven num (den * 2 ^ e))

/-- The number nearest to `num / den` units, with the given sign. -/
def round (negative : Bool) (num den : Nat) : Binary64 :=
  ofMagnitude negative (nearest num den)

end Binary64

end SimilarItems
