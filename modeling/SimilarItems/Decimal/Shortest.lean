import SimilarItems.Binary64.Rounding
import SimilarItems.Decimal.Digits

/-!
# Shortest decimals

The shortest decimal that reads back as a given binary64 magnitude, and of several equally short
ones the nearest to it.

A decimal reads back as the magnitude `m` when it lies between the midpoints to the neighbouring
magnitudes; the midpoints themselves belong to `m` when it is even. For one digit, two digits and
so on the two points of that decimal grid around the exact value are tried: if any point of a grid
lies in the interval, one of these two does.
-/

namespace SimilarItems

attribute [local instance (high)] instPowNat

/-- The decimal number `coefficient · 10 ^ exponent`. -/
structure Decimal where
  /-- The digits, read as a natural number. -/
  coefficient : Nat
  /-- The power of ten that scales it. -/
  exponent : Int
deriving DecidableEq

namespace Decimal

/-- The number of digits of a number; one for zero. -/
def size (n : Nat) : Nat := if n < 10 then 1 else size (n / 10) + 1
termination_by n
decreasing_by omega

/-- The exponent `E` for which a positive number of units lies in `[10 ^ E, 10 ^ (E + 1))`. The
smallest one exceeds `10 ^ (-324)`, so scaled by `10 ^ 324` every one has a whole part. -/
def leadingExponent (units : Nat) : Int :=
  (size (units * 10 ^ (324 : Nat) / Binary64.unitsPerOne) : Int) - 1 - 324

/-- The points of a decimal grid are the multiples of `10 ^ exponent`; a number of units lies
`num / den` points above zero. -/
structure Grid where
  /-- The exponent of the grid's spacing. -/
  exponent : Int
deriving DecidableEq

namespace Grid

/-- What a number of units is multiplied with when it is counted in points. -/
def numScale (g : Grid) : Nat := 10 ^ (-g.exponent).toNat

/-- What a number of units is divided by when it is counted in points. -/
def denScale (g : Grid) : Nat := Binary64.unitsPerOne * 10 ^ g.exponent.toNat

/-- Whether the point `c` of the grid reads back as the magnitude `m`. -/
def readsBack (g : Grid) (m c : Nat) : Bool :=
  let below := (Binary64.unitsOf (m - 1) + Binary64.unitsOf m) * g.numScale
  let above := (Binary64.unitsOf m + Binary64.unitsOf (m + 1)) * g.numScale
  let point := 2 * c * g.denScale
  if m % 2 = 0 then below ≤ point && point ≤ above else below < point && point < above

/-- The point nearest to the magnitude `m` among its two neighbours on the grid that read back as
`m`, if there is one. -/
def pointFor? (g : Grid) (m : Nat) : Option Nat :=
  let num := Binary64.unitsOf m * g.numScale
  let floor := num / g.denScale
  match g.readsBack m floor, g.readsBack m (floor + 1) with
  | true, true => some (roundHalfEven num g.denScale)
  | true, false => some floor
  | false, true => some (floor + 1)
  | false, false => none

end Grid

/-- The shortest decimal of a positive finite magnitude whose leading digit stands at `10 ^ leading`:
the first hit among the grids of one digit, two digits and so on. Seventeen always suffice. -/
def shortestFrom (leading : Int) (m : Nat) : Option Decimal :=
  (List.range 17).findSome? fun (i : Nat) =>
    let grid : Grid := ⟨leading - i⟩
    (grid.pointFor? m).map fun c => ⟨c, grid.exponent⟩

/-- The shortest decimal of a positive finite magnitude. -/
def shortest (m : Nat) : Decimal :=
  (shortestFrom (leadingExponent (Binary64.unitsOf m)) m).getD ⟨0, 0⟩

end Decimal

end SimilarItems
