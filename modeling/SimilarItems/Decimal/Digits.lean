/-!
# Decimal digits

Digits of decimal numbers, as values, as numbers and as characters.
-/

namespace SimilarItems

/-- A decimal digit. -/
abbrev Digit := Fin 10

namespace Digit

-- The zero of core, as in the type of the numerals of `Fin`.
attribute [local instance (high)] Zero.ofOfNat0

/-- There are digits: what the numeral `0` as a digit rests on. -/
instance : NeZero 10 := ⟨by decide⟩

/-- The character of a digit. -/
def toChar (d : Digit) : Char := Char.ofNat (48 + d.val)

/-- The digit that a character stands for. Only the ten ASCII digits count. -/
def ofChar? (c : Char) : Option Digit :=
  if h : 48 ≤ c.toNat ∧ c.toNat < 58 then some ⟨c.toNat - 48, by omega⟩ else none

end Digit

namespace Digits

/-- The number that the digits `ds`, read after a number `start`, make. -/
def valueFrom (start : Nat) (ds : List Digit) : Nat := ds.foldl (fun n d => 10 * n + d.val) start

/-- The number that digits stand for, the most significant first. -/
def value (ds : List Digit) : Nat := valueFrom 0 ds

/-- The digits of a number, without leading zeros; zero has one digit. -/
def ofNat (n : Nat) : List Digit :=
  if h : n < 10 then [⟨n, h⟩] else ofNat (n / 10) ++ [⟨n % 10, Nat.mod_lt _ (by decide)⟩]
termination_by n
decreasing_by omega

/-- The characters of digits. -/
def chars (ds : List Digit) : List Char := ds.map Digit.toChar

/-- The digits of `n`, with zeros in front up to the given width. -/
def padded (width n : Nat) : List Digit :=
  let ds := ofNat n
  List.replicate (width - ds.length) 0 ++ ds

/-- The digits at the front of a text, and the text after them. -/
def span : List Char → List Digit × List Char
  | [] => ([], [])
  | c :: cs =>
    match Digit.ofChar? c with
    | some d => (d :: (span cs).1, (span cs).2)
    | none => ([], c :: cs)

/-- The number that digits with an optional plus sign in front of them make, if it is not larger
than `most`. -/
def natural? (most : Nat) (cs : List Char) : Option Nat :=
  let (ds, rest) := span (if cs.head? = some '+' then cs.tail else cs)
  if ds.isEmpty || !rest.isEmpty then none
  else if value ds ≤ most then some (value ds)
  else none

/-- Digits without the zeros at their end. -/
def dropTrailingZeros (ds : List Digit) : List Digit :=
  (ds.reverse.dropWhile (· == 0)).reverse

/-- The decimal digits of a number, as text. -/
def text (n : Nat) : String := String.ofList (chars (ofNat n))

end Digits

end SimilarItems
