/-!
# Binary64 numbers

A binary64 number is a sign and a magnitude. The magnitude is the number's remaining 63 bits read
as one natural number: among finite values and the infinity it grows with the absolute value, and
what lies above the infinity is not a number (NaN). NaNs keep their sign and payload, because the
order that ranks scores tells them apart.

Every finite number is a whole multiple of the smallest positive one, `2 ^ (-1074)`, here called
the *unit*. `Binary64.unitsOf` reads a finite magnitude as such a multiple, so that arithmetic on
numbers becomes arithmetic on naturals followed by one rounding.
-/

namespace SimilarItems

-- Powers are those of core, also where Mathlib is imported: the program is built without it.
attribute [local instance (high)] instPowNat

/-- A binary64 number: its sign bit, and the other 63 bits as one number. -/
structure Binary64 where
  /-- The sign bit. -/
  negative : Bool
  /-- The exponent field and the fraction field read as one number. -/
  magnitude : Fin (2 ^ (63 : Nat))
deriving DecidableEq, Inhabited

namespace Binary64

/-- The magnitude of an infinity: the first one that is not finite. -/
def infiniteMagnitude : Nat := 0x7ff * 2 ^ (52 : Nat)

/-- The number of units in one: `1 = unitsPerOne · 2 ^ (-1074)`. -/
def unitsPerOne : Nat := 2 ^ (1074 : Nat)

/-- The number with the given sign and magnitude; only the low 63 bits of the magnitude count. -/
def ofMagnitude (negative : Bool) (m : Nat) : Binary64 :=
  ⟨negative, ⟨m % 2 ^ (63 : Nat), Nat.mod_lt _ (by decide)⟩⟩

/-- The number whose 64 bits, the sign first, are those of `n`. -/
def ofBits (n : Nat) : Binary64 := ofMagnitude (n / 2 ^ (63 : Nat) % 2 == 1) n

/-- The 64 bits of a number, the sign first. -/
def toBits (x : Binary64) : Nat := (if x.negative then 2 ^ (63 : Nat) else 0) + x.magnitude

/-- Zero with the given sign. -/
def zero (negative : Bool) : Binary64 := ofMagnitude negative 0

/-- Infinity with the given sign. -/
def infinity (negative : Bool) : Binary64 := ofMagnitude negative infiniteMagnitude

/-- The quiet NaN with the given sign and no payload. -/
def nan (negative : Bool) : Binary64 := ofMagnitude negative (infiniteMagnitude + 2 ^ (51 : Nat))

/-- One. -/
def one : Binary64 := ofMagnitude false (0x3ff * 2 ^ (52 : Nat))

/-- Whether the number is positive or negative zero. -/
def isZero (x : Binary64) : Bool := x.magnitude.val == 0

/-- Whether the number is neither infinite nor a NaN. -/
def isFinite (x : Binary64) : Bool := x.magnitude.val < infiniteMagnitude

/-- Whether the number is an infinity. -/
def isInfinite (x : Binary64) : Bool := x.magnitude.val == infiniteMagnitude

/-- Whether the number is a NaN. -/
def isNaN (x : Binary64) : Bool := infiniteMagnitude < x.magnitude.val

/-- The same magnitude with the other sign. -/
def neg (x : Binary64) : Binary64 := ⟨!x.negative, x.magnitude⟩

/-- The magnitude `m` as a multiple of the unit. Below `2 ^ 52` (exponent field zero) a magnitude
counts units itself; above, the fraction gains its leading one and is shifted by the exponent. -/
def unitsOf (m : Nat) : Nat :=
  if m < 2 ^ (52 : Nat) then m else (2 ^ (52 : Nat) + m % 2 ^ (52 : Nat)) * 2 ^ (m / 2 ^ (52 : Nat) - 1)

/-- The absolute value of a finite number in units. -/
def units (x : Binary64) : Nat := unitsOf x.magnitude

/-- A finite number in units, with its sign. -/
def signedUnits (x : Binary64) : Int := if x.negative then -(x.units : Int) else x.units

/-! ## Total order -/

/-- The place of a number in the total order of binary64 numbers: negative ones first, from the
largest magnitude down, then positive ones. So negative NaNs come first, positive NaNs last, and
`-0` before `+0`. -/
def rank (x : Binary64) : Nat :=
  if x.negative then 2 ^ (63 : Nat) - 1 - x.magnitude else 2 ^ (63 : Nat) + x.magnitude

/-- The total order of binary64 numbers, NaNs and signed zeros included. -/
def totalOrder (x y : Binary64) : Ordering := compare x.rank y.rank

end Binary64

end SimilarItems
