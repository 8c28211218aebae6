import SimilarItems.Instant.Rfc3339
import SimilarItems.Text.Blank

/-!
# Instants as text, leniently

A reader that takes everything `Instant.zulu` writes, and more: a year with a sign may have any
number of digits, other fields may have a digit less, and blanks may stand before and after the
numbers.
-/

namespace SimilarItems.Instant

open Text (isBlank trimStart)

/-- Reads a year: up to four digits, or a sign and any digits. -/
def year? (cs : List Char) : Option (Int × List Char) :=
  match trimStart cs with
  | '-' :: cs => (number? 1 cs.length cs).map fun p => (-(p.1 : Int), p.2)
  | '+' :: cs => (number? 1 cs.length cs).map fun p => ((p.1 : Int), p.2)
  | cs => (number? 1 4 cs).map fun p => ((p.1 : Int), p.2)

/-- Reads a number of one or two digits, with blanks before it. -/
def field? (cs : List Char) : Option (Nat × List Char) := number? 1 2 (trimStart cs)

/-- Reads a given character, with blanks before it. -/
def mark? (c : Char) (cs : List Char) : Option (List Char) := literal? c (trimStart cs)

/-- Passes over colons and blanks. -/
def colons? (cs : List Char) : Option (List Char) :=
  some (cs.dropWhile fun c => c = ':' || isBlank c)

/-- Reads a zone: the letters `UTC` in either case, `Z`, or hours and minutes. -/
def zone? (cs : List Char) : Option (Int × List Char) :=
  match cs with
  | u :: t :: c :: rest =>
    if (u = 'U' ∨ u = 'u') ∧ (t = 'T' ∨ t = 't') ∧ (c = 'C' ∨ c = 'c') then some (0, rest)
    else offset? colons? cs
  | _ => offset? colons? cs

/-- Reads an instant that takes up the whole text, blanks apart. -/
def ofLenientChars? (cs : List Char) : Option Instant := do
  let (year, cs) ← year? cs
  let cs ← mark? '-' cs
  let (month, cs) ← field? cs
  let cs ← mark? '-' cs
  let (day, cs) ← field? cs
  let cs ← separator? cs
  let (hour, cs) ← field? cs
  let cs ← mark? ':' cs
  let (minute, cs) ← field? cs
  let cs ← mark? ':' cs
  let (second, cs) ← field? cs
  let (nanos, cs) ← fraction? cs
  let (offset, cs) ← zone? (trimStart cs)
  if (trimStart cs).isEmpty then
    (WallClock.mk ⟨year, month, day⟩ hour minute second nanos).toInstant? offset
  else none

/-- Reads an instant that takes up the whole text, blanks apart. -/
def ofLenient? (s : String) : Option Instant := ofLenientChars? s.toList

end SimilarItems.Instant
