import SimilarItems.Binary64.Literal
import SimilarItems.Instant.Rfc3339
import SimilarItems.Toml.Text
import SimilarItems.Toml.Value

/-!
# TOML scalars

Numbers, dates and times, strings and the two truth values. Digits may be grouped by single
underscores between them. Integers have 64 bits; a number with a point or an exponent must not be
too large.
-/

namespace SimilarItems.Toml

attribute [local instance (high)] instPowNat

/-! ## Numbers -/

/-- Reads further digits, each of which may have an underscore before it. -/
def moreDigits? {δ : Type} (digit? : Char → Option δ) : List Char → Option (List δ × List Char)
  | [] => some ([], [])
  | ['_'] => none
  | '_' :: c :: cs =>
    match digit? c with
    | none => none
    | some d => (moreDigits? digit? cs).map fun p => (d :: p.1, p.2)
  | c :: cs =>
    match digit? c with
    | none => some ([], c :: cs)
    | some d => (moreDigits? digit? cs).map fun p => (d :: p.1, p.2)

/-- Reads at least one digit. -/
def digits? {δ : Type} (digit? : Char → Option δ) : List Char → Option (List δ × List Char)
  | [] => none
  | c :: cs => do
    let d ← digit? c
    let (ds, rest) ← moreDigits? digit? cs
    some (d :: ds, rest)

/-- Reads the digits before a point: a zero alone, or digits that do not start with one. -/
def wholeDigits? (cs : List Char) : Option (List Digit × List Char) :=
  match cs with
  | '0' :: rest => some ([0], rest)
  | _ => digits? Digit.ofChar? cs

/-- The integers that can be written. -/
def inIntegerRange (n : Int) : Bool := -2 ^ (63 : Nat) ≤ n && n < 2 ^ (63 : Nat)

/-- An integer, if it can be written. -/
def integerValue? (n : Int) : Option Value := if inIntegerRange n then some (.integer n) else none

/-- A digit of a base up to sixteen. -/
def baseDigit? (base : Nat) (c : Char) : Option Nat :=
  (Json.Quoted.hexValue? c).bind fun d => if d < base then some d else none

/-- Reads the digits of an integer in a base. -/
def baseInteger? (base : Nat) (cs : List Char) : Option (Value × List Char) := do
  let (ds, rest) ← digits? (baseDigit? base) cs
  let v ← integerValue? (ds.foldl (fun n d => base * n + d) 0 : Nat)
  some (v, rest)

/-- Reads the exponent of a number, if there is one. -/
def exponent? (cs : List Char) : Option (Option Int × List Char) :=
  match cs with
  | c :: rest =>
    if c = 'e' ∨ c = 'E' then do
      let (negative, rest) := Binary64.signed rest
      let (ds, rest) ← digits? Digit.ofChar? rest
      let n : Int := Digits.value ds
      some (some (if negative then -n else n), rest)
    else some (none, cs)
  | [] => some (none, [])

/-- Reads the digits after a point, if there is one. -/
def fractionDigits? : List Char → Option (List Digit × List Char)
  | '.' :: rest => digits? Digit.ofChar? rest
  | cs => some ([], cs)

/-- A number with a point or an exponent; one that is rounded up to infinity is refused. -/
def realValue? (x : Binary64) : Option Value :=
  if x = .infinity false then none else some (.real x)

/-- Reads a decimal number after its sign. -/
def decimal? (negative : Bool) (cs : List Char) : Option (Value × List Char) := do
  let (whole, rest) ← wholeDigits? cs
  let (fraction, rest) ← fractionDigits? rest
  let (exponent, rest) ← exponent? rest
  if fraction.isEmpty && exponent.isNone then
    let n : Int := Digits.value whole
    let v ← integerValue? (if negative then -n else n)
    some (v, rest)
  else
    let e := exponent.getD 0 - fraction.length
    let v ← realValue? (.ofDigits negative (whole ++ fraction) e)
    some (v, rest)

/-- Reads a number after its sign. -/
def signedNumber? (negative : Bool) : List Char → Option (Value × List Char)
  | 'i' :: 'n' :: 'f' :: rest => some (.real (.infinity negative), rest)
  | 'n' :: 'a' :: 'n' :: rest => some (.real (.nan negative), rest)
  | cs => decimal? negative cs

/-- Reads a number. Only one without a sign may be written in another base. -/
def number? : List Char → Option (Value × List Char)
  | '0' :: 'x' :: cs => baseInteger? 16 cs
  | '0' :: 'o' :: cs => baseInteger? 8 cs
  | '0' :: 'b' :: cs => baseInteger? 2 cs
  | '-' :: cs => signedNumber? true cs
  | '+' :: cs => signedNumber? false cs
  | cs => signedNumber? false cs

/-! ## Dates and times -/

/-- Passes over a date. -/
def skipDate? (cs : List Char) : Option (List Char) := do
  let (year, cs) ← Instant.number? 4 4 cs
  let cs ← Instant.literal? '-' cs
  let (month, cs) ← Instant.number? 2 2 cs
  let cs ← Instant.literal? '-' cs
  let (day, cs) ← Instant.number? 2 2 cs
  if (Date.mk year month day).isValid then some cs else none

/-- Passes over a time of day. -/
def skipTime? (cs : List Char) : Option (List Char) := do
  let (hour, cs) ← Instant.number? 2 2 cs
  let cs ← Instant.literal? ':' cs
  let (minute, cs) ← Instant.number? 2 2 cs
  let cs ← Instant.literal? ':' cs
  let (second, cs) ← Instant.number? 2 2 cs
  let (_, cs) ← Instant.fraction? cs
  if hour ≤ 23 ∧ minute ≤ 59 ∧ second ≤ 60 then some cs else none

/-- Passes over a zone, if there is one. -/
def skipZone (cs : List Char) : List Char :=
  match cs with
  | c :: rest =>
    if c = '+' ∨ c = '-' ∨ c = 'Z' ∨ c = 'z' then
      ((Instant.offset? (Instant.literal? ':') (c :: rest)).map fun p => p.2).getD cs
    else cs
  | [] => []

/-- Passes over a date that may be followed by a time of day, or over a time of day alone. -/
def skipMoment? (cs : List Char) : Option (List Char) :=
  match skipDate? cs with
  | some rest =>
    match (Instant.separator? rest).bind skipTime? with
    | some rest => some (skipZone rest)
    | none => some rest
  | none => skipTime? cs

/-- Reads a date, a time of day, or both. -/
def moment? (cs : List Char) : Option (Value × List Char) :=
  (skipMoment? cs).map fun rest =>
    (.moment (String.ofList (cs.take (cs.length - rest.length))), rest)

/-! ## Scalars -/

/-- Reads a value that is neither an array nor a table. -/
def scalar? (cs : List Char) : Option (Value × List Char) :=
  match cs with
  | 't' :: 'r' :: 'u' :: 'e' :: rest => some (.bool true, rest)
  | 'f' :: 'a' :: 'l' :: 's' :: 'e' :: rest => some (.bool false, rest)
  | '"' :: _ => (string? cs).map fun p => (.string p.1, p.2)
  | '\'' :: _ => (string? cs).map fun p => (.string p.1, p.2)
  | _ => (moment? cs).orElse fun _ => number? cs

end SimilarItems.Toml
