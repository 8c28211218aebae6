import SimilarItems.Binary64.Arithmetic
import SimilarItems.Decimal.Digits

/-!
# Binary64 literals

Reading a binary64 number from plain text: an optional sign, and either a name for infinity or NaN
in any case, or digits with an optional point, a digit on at least one side of it, and an optional
exponent. The number is the nearest to what is written.
-/

namespace SimilarItems.Binary64

attribute [local instance (high)] instPowNat

/-- A sign in front of a text, and the text after it. -/
def signed (cs : List Char) : Bool × List Char :=
  match cs with
  | '-' :: rest => (true, rest)
  | '+' :: rest => (false, rest)
  | _ => (false, cs)

/-- The number `ds · 10 ^ exponent` rounded. What is certainly too large or too small is decided by
its leading digit alone. -/
def ofDigits (negative : Bool) (ds : List Digit) (exponent : Int) : Binary64 :=
  let n := Digits.value ds
  let size := (Digits.ofNat n).length + exponent
  if n = 0 ∨ size < -400 then zero negative
  else if 400 < size then infinity negative
  else round negative (n * 10 ^ exponent.toNat * unitsPerOne) (10 ^ (-exponent).toNat)

/-- Reads the exponent that takes up the rest of the text; zero if there is no rest. -/
def literalExponent? (cs : List Char) : Option Int :=
  match cs with
  | [] => some 0
  | c :: rest =>
    if c = 'e' ∨ c = 'E' then
      let (negative, rest) := signed rest
      match Digits.span rest with
      | (d :: ds, []) =>
        let n : Int := Digits.value (d :: ds)
        some (if negative then -n else n)
      | _ => none
    else none

/-- Reads digits with an optional point and exponent. -/
def ofDecimalChars? (negative : Bool) (cs : List Char) : Option Binary64 :=
  let (whole, rest) := Digits.span cs
  let (fraction, rest) := match rest with
    | '.' :: rest => Digits.span rest
    | _ => ([], rest)
  if whole.isEmpty && fraction.isEmpty then none
  else (literalExponent? rest).map fun e =>
    ofDigits negative (whole ++ fraction) (e - fraction.length)

/-- Reads a number that takes up the whole text. -/
def ofLiteral? (cs : List Char) : Option Binary64 :=
  let (negative, body) := signed cs
  let lower := body.map Char.toLower
  if lower = ['i', 'n', 'f'] ∨ lower = ['i', 'n', 'f', 'i', 'n', 'i', 't', 'y'] then
    some (infinity negative)
  else if lower = ['n', 'a', 'n'] then some (nan negative)
  else ofDecimalChars? negative body

end SimilarItems.Binary64
