import SimilarItems.Decimal.Digits

/-!
# JSON numbers

A JSON number kept as it is written: its sign, the digits before and after the point, and the
exponent. What number that is, as a natural number or in binary64, is decided where it is used.
-/

namespace SimilarItems.Json

/-- The written exponent of a JSON number. -/
structure Exponent where
  /-- Whether it has a minus sign. -/
  negative : Bool
  /-- Its digits. -/
  digits : List Digit
deriving DecidableEq

/-- A JSON number as it is written. -/
structure Number where
  /-- Whether it starts with a minus sign. -/
  negative : Bool
  /-- The digits before the point. -/
  whole : List Digit
  /-- The digits after the point; none if there is no point. -/
  fraction : List Digit
  /-- The exponent, if one is written. -/
  exponent : Option Exponent
deriving DecidableEq

namespace Number

/-- The number with the given sign and whole part. -/
def ofWhole (negative : Bool) (n : Nat) : Number := ⟨negative, Digits.ofNat n, [], none⟩

/-- A natural number. -/
def ofNat (n : Nat) : Number := ofWhole false n

/-- An integer. -/
def ofInt (n : Int) : Number := ofWhole (n < 0) n.natAbs

/-- The natural number that is written as plain digits, at most `limit`. A sign, a point or an
exponent disqualifies. -/
def natural? (limit : Nat) (n : Number) : Option Nat :=
  if n.negative || !n.fraction.isEmpty || n.exponent.isSome then none
  else
    let v := Digits.value n.whole
    if v ≤ limit then some v else none

/-- The integer that is written as plain digits with or without a minus sign. -/
def integer? (n : Number) : Option Int :=
  if !n.fraction.isEmpty || n.exponent.isSome then none
  else
    let v := Digits.value n.whole
    some (if n.negative then -v else v)

/-! ## Text -/

/-- The text of an exponent: `e`, the sign (also a plus sign), the digits. -/
def exponentChars (e : Exponent) : List Char :=
  'e' :: (if e.negative then '-' else '+') :: Digits.chars e.digits

/-- The text of a number. -/
def chars (n : Number) : List Char :=
  (if n.negative then ['-'] else []) ++ Digits.chars n.whole
    ++ (if n.fraction.isEmpty then [] else '.' :: Digits.chars n.fraction)
    ++ (match n.exponent with
      | none => []
      | some e => exponentChars e)

/-- Reads the digits before the point: at least one, and no zero in front of another digit. -/
def readWhole? (cs : List Char) : Option (List Digit × List Char) :=
  match Digits.span cs with
  | ([], _) => none
  | (0 :: _ :: _, _) => none
  | (ds, rest) => some (ds, rest)

/-- Reads the point and the digits after it, if there is a point. -/
def readFraction? (cs : List Char) : Option (List Digit × List Char) :=
  match cs with
  | '.' :: rest =>
    match Digits.span rest with
    | ([], _) => none
    | (ds, rest) => some (ds, rest)
  | _ => some ([], cs)

/-- Reads the exponent, if there is one. -/
def readExponent? (cs : List Char) : Option (Option Exponent × List Char) :=
  match cs with
  | c :: rest =>
    if c = 'e' ∨ c = 'E' then
      let (negative, rest) := match rest with
        | '-' :: rest => (true, rest)
        | '+' :: rest => (false, rest)
        | _ => (false, rest)
      match Digits.span rest with
      | ([], _) => none
      | (ds, rest) => some (some ⟨negative, ds⟩, rest)
    else some (none, cs)
  | [] => some (none, [])

/-- Reads the number at the front of a text. -/
def read? (cs : List Char) : Option (Number × List Char) := do
  let (negative, cs) := match cs with
    | '-' :: rest => (true, rest)
    | _ => (false, cs)
  let (whole, cs) ← readWhole? cs
  let (fraction, cs) ← readFraction? cs
  let (exponent, cs) ← readExponent? cs
  some (⟨negative, whole, fraction, exponent⟩, cs)

end Number

end SimilarItems.Json
