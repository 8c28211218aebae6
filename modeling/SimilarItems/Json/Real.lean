import SimilarItems.Binary64.Arithmetic
import SimilarItems.Decimal.Shortest
import SimilarItems.Json.Number

/-!
# Binary64 numbers as JSON numbers

A finite number is written with the fewest digits that read back. Numbers are read by scaling the
rounded leading digits with a rounded power of ten, so that reading can differ from the nearest
number in the last bits; it is exact where both the digits and the power of ten are.
-/

namespace SimilarItems

attribute [local instance (high)] instPowNat

namespace Json.Number

/-- The exponents of the leading digit from which on, and up to which, numbers are written without
an exponent. -/
def plainExponents : Int × Int := (-5, 15)

/-- The number with the digits `ds`, of which the first stands at `10 ^ leading`. Plain numbers
always have a fraction, if only a zero. -/
def ofDigits (negative : Bool) (ds : List Digit) (leading : Int) : Number :=
  if plainExponents.1 ≤ leading ∧ leading ≤ plainExponents.2 then
    if leading < 0 then
      ⟨negative, [0], List.replicate (-leading - 1).toNat 0 ++ ds, none⟩
    else
      let size := leading.toNat + 1
      if ds.length ≤ size then
        ⟨negative, ds ++ List.replicate (size - ds.length) 0, [0], none⟩
      else ⟨negative, ds.take size, ds.drop size, none⟩
  else ⟨negative, ds.take 1, ds.drop 1, some ⟨leading < 0, Digits.ofNat leading.natAbs⟩⟩

/-- The number that stands for a decimal. -/
def ofDecimal (negative : Bool) (d : Decimal) : Number :=
  let ds := Digits.ofNat d.coefficient
  ofDigits negative (Digits.dropTrailingZeros ds) (ds.length - 1 + d.exponent)

/-- A finite binary64 number, written with the fewest digits that read back. -/
def ofBinary64 (x : Binary64) : Number :=
  if x.isZero then ⟨x.negative, [0], [0], none⟩
  else ofDecimal x.negative (Decimal.shortest x.magnitude)

/-! ## Reading -/

/-- The largest number that the leading digits of a number are gathered in. -/
def significandLimit : Nat := 2 ^ (64 : Nat) - 1

/-- The largest written exponent; a longer one is taken to overflow. -/
def exponentLimit : Nat := 2 ^ (31 : Nat) - 1

/-- Appends digits to a number while the result stays within the limit, and counts the digits
appended. From the first digit on that does not fit, all are dropped. -/
def gather (s : Nat) : List Digit → Nat × Nat
  | [] => (s, 0)
  | d :: ds =>
    let s' := 10 * s + d
    if s' ≤ significandLimit then ((gather s' ds).1, (gather s' ds).2 + 1) else (s, 0)

/-- The leading digits of a number as a natural number, with the power of ten that scales it:
dropped digits before the point raise it, and gathered ones after the point lower it. -/
def significand (n : Number) : Nat × Int :=
  let (s, taken) := gather 0 n.whole
  let (s', places) := gather s n.fraction
  (s', ((n.whole.length - taken : Nat) : Int) - places)

/-- The power of ten `10 ^ k`, rounded. -/
def powerOfTen (k : Nat) : Binary64 := .round false (10 ^ k * Binary64.unitsPerOne) 1

/-- The largest power of ten that is finite. -/
def largestPower : Nat := 308

/-- `x` over `10 ^ k`, in steps of the largest power of ten; a zero ends them early. -/
def scaleDown (x : Binary64) (k : Nat) : Binary64 :=
  if k ≤ largestPower then x / powerOfTen k
  else if x.isZero then x
  else scaleDown (x / powerOfTen largestPower) (k - largestPower)
termination_by k
decreasing_by
  have : 0 < largestPower := by decide
  omega

/-- `x · 10 ^ e`, or `none` if that is too large. -/
def scale? (x : Binary64) (e : Int) : Option Binary64 :=
  if e < 0 then some (scaleDown x e.natAbs)
  else if e ≤ largestPower then
    let y := x * powerOfTen e.toNat
    if y.isInfinite then none else some y
  else if x.isZero then some x
  else none

/-- The absolute value of a number, or `none` if it is too large. -/
def absolute? (n : Number) : Option Binary64 :=
  let (s, e) := n.significand
  let x := Binary64.round false (s * Binary64.unitsPerOne) 1
  match n.exponent with
  | none => scale? x e
  | some written =>
    let w := Digits.value written.digits
    if exponentLimit < w then
      if s = 0 || written.negative then some (.zero false) else none
    else scale? x (if written.negative then e - w else e + w)

/-- The binary64 number that a JSON number is read as, or `none` if it is too large. -/
def toBinary64? (n : Number) : Option Binary64 :=
  n.absolute?.map fun x => if n.negative then -x else x

end Json.Number

end SimilarItems
