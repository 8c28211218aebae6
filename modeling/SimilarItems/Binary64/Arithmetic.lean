import SimilarItems.Binary64.Rounding

/-!
# Arithmetic on binary64 numbers

Each operation computes its exact result in units and rounds once. An operation on a NaN answers
the first of its operands that is a NaN, made quiet; an invalid operation (such as the difference
of two infinities, or the root of a negative number) answers a negative quiet NaN.
-/

namespace SimilarItems

attribute [local instance (high)] instPowNat

/-- The largest number whose square is at most `n`, for an `n` below `4 ^ k`: one binary digit of
the root for each base-four digit of `n`. -/
def floorRoot : Nat → Nat → Nat
  | 0, _ => 0
  | k + 1, n =>
    let r := 2 * floorRoot k (n / 4)
    if (r + 1) * (r + 1) ≤ n then r + 1 else r

namespace Binary64

/-- The NaN made quiet: bit 51 of the fraction is set, the payload stays. -/
def quiet (x : Binary64) : Binary64 :=
  if x.magnitude.val / 2 ^ (51 : Nat) % 2 = 1 then x else ofMagnitude x.negative (x.magnitude + 2 ^ (51 : Nat))

/-- What an invalid operation answers. -/
def invalid : Binary64 := nan true

/-- The answer of a binary operation when one operand is a NaN: the first NaN, made quiet. -/
def nanOperand? (x y : Binary64) : Option Binary64 :=
  if x.isNaN then some x.quiet else if y.isNaN then some y.quiet else none

/-- The rounded sum. A sum that is exactly zero is negative only if both operands are. -/
def add (x y : Binary64) : Binary64 :=
  match nanOperand? x y with
  | some z => z
  | none =>
    if x.isInfinite then
      if y.isInfinite && x.negative != y.negative then invalid else x
    else if y.isInfinite then y
    else
      let sum := x.signedUnits + y.signedUnits
      if sum = 0 then zero (x.negative && y.negative)
      else round (sum < 0) sum.natAbs 1

/-- The rounded product. Zero times infinity is invalid. -/
def mul (x y : Binary64) : Binary64 :=
  match nanOperand? x y with
  | some z => z
  | none =>
    let negative := x.negative != y.negative
    if x.isInfinite || y.isInfinite then
      if x.isZero || y.isZero then invalid else infinity negative
    else round negative (x.units * y.units) unitsPerOne

/-- The rounded quotient. Zero by zero and infinity by infinity are invalid, and any other number
by zero is infinite. -/
def div (x y : Binary64) : Binary64 :=
  match nanOperand? x y with
  | some z => z
  | none =>
    let negative := x.negative != y.negative
    if x.isInfinite then
      if y.isInfinite then invalid else infinity negative
    else if y.isInfinite then zero negative
    else if y.isZero then
      if x.isZero then invalid else infinity negative
    else round negative (x.units * unitsPerOne) y.units

/-- The magnitude nearest to the square root of `u` units.

The root in units is that of `u · 2 ^ 1074`. Of that product only the leading digits are rooted,
enough for 55 significant bits, and whether anything was lost is kept in one further bit, which
suffices to round as the exact root would be. -/
def rootMagnitude (u : Nat) : Nat :=
  let square := u * unitsPerOne
  let dropped := (Nat.log2 square - 108) / 2
  let leading := square / 4 ^ dropped
  let root := floorRoot (Nat.log2 leading / 2 + 1) leading
  let sticky := if root * root * 4 ^ dropped = square then 0 else 1
  nearest ((2 * root + sticky) * 2 ^ dropped) 2

/-- The rounded square root. The root of a negative number other than `-0` is invalid. -/
def sqrt (x : Binary64) : Binary64 :=
  if x.isNaN then x.quiet
  else if x.isZero then x
  else if x.negative then invalid
  else if x.isInfinite then x
  else ofMagnitude false (rootMagnitude x.units)

instance : Add Binary64 := ⟨add⟩
instance : Mul Binary64 := ⟨mul⟩
instance : Div Binary64 := ⟨div⟩
instance : Neg Binary64 := ⟨neg⟩

end Binary64

end SimilarItems
