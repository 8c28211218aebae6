import SimilarItems.Binary64.Rounding
import SimilarItems.Decimal.Digits

/-!
# Fixed places

Binary64 numbers written with a fixed number of places after the point: the nearest such decimal to
the exact value, and of two nearest ones the one whose last digit is even.
-/

namespace SimilarItems.Binary64

attribute [local instance (high)] instPowNat

/-- The absolute value of a finite number counted in steps of `10 ^ (-places)`. -/
def inPlaces (places : Nat) (x : Binary64) : Nat :=
  roundHalfEven (x.units * 10 ^ places) unitsPerOne

/-- A number of steps of `10 ^ (-places)`, written with a positive number of places. -/
def placesChars (places n : Nat) : List Char :=
  Digits.chars (Digits.ofNat (n / 10 ^ places))
    ++ '.' :: Digits.chars (Digits.padded places (n % 10 ^ places))

/-- A number with a positive number of places. The sign is written of everything negative but of no
NaN. -/
def fixedChars (places : Nat) (x : Binary64) : List Char :=
  if x.isNaN then ['N', 'a', 'N']
  else
    let size := if x.isInfinite then ['i', 'n', 'f'] else placesChars places (x.inPlaces places)
    if x.negative then '-' :: size else size

/-- A number with a positive number of places. -/
def fixed (places : Nat) (x : Binary64) : String := String.ofList (fixedChars places x)

end SimilarItems.Binary64
