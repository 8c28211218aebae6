import SimilarItems.Decimal.Digits
import SimilarItems.Instant.Calendar

/-!
# Instants as text, after RFC 3339

An instant is written as a date and a time of day in universal time, with as few fraction digits,
in groups of three, as are exact. Years outside 0 to 9999 are written with a sign; the strict
reader, which takes four digits for the year, does not read those back.
-/

namespace SimilarItems.Instant

attribute [local instance (high)] instPowNat

/-! ## Writing -/

/-- The decimal digits of a number, zeros put in front up to the given width. -/
def paddedChars (width n : Nat) : List Char := Digits.chars (Digits.padded width n)

/-- A year: four digits, or a sign and at least four digits. -/
def yearChars (year : Int) : List Char :=
  if 0 ≤ year ∧ year ≤ 9999 then paddedChars 4 year.toNat
  else (if year < 0 then '-' else '+') :: paddedChars 4 year.natAbs

/-- A date as year, month and day. -/
def dateChars (d : Date) : List Char :=
  yearChars d.year ++ '-' :: paddedChars 2 d.month ++ '-' :: paddedChars 2 d.day

/-- A fraction of a second in the fewest of no, three, six or nine digits. -/
def fractionChars (nanos : Nat) : List Char :=
  if nanos = 0 then []
  else if nanos % 1000000 = 0 then '.' :: paddedChars 3 (nanos / 1000000)
  else if nanos % 1000 = 0 then '.' :: paddedChars 6 (nanos / 1000)
  else '.' :: paddedChars 9 nanos

/-- Hour and minute of a wall clock. -/
def hourMinuteChars (w : WallClock) : List Char :=
  paddedChars 2 w.hour ++ ':' :: paddedChars 2 w.minute

/-- Hour, minute and second of a wall clock. -/
def timeChars (w : WallClock) : List Char :=
  hourMinuteChars w ++ ':' :: paddedChars 2 w.second

/-- Date and time of an instant, down to the nanosecond, without a zone. -/
def dateTimeChars (t : Instant) : List Char :=
  let w := t.wallClock
  dateChars w.date ++ 'T' :: timeChars w ++ fractionChars w.nanos

/-- An instant with its zone as an offset of zero. -/
def rfc3339Chars (t : Instant) : List Char :=
  dateTimeChars t ++ ['+', '0', '0', ':', '0', '0']

/-- An instant with its zone as an offset of zero. -/
def rfc3339 (t : Instant) : String := String.ofList (rfc3339Chars t)

/-- An instant with its zone as the letter `Z`. -/
def zuluChars (t : Instant) : List Char := dateTimeChars t ++ ['Z']

/-- An instant with its zone as the letter `Z`. -/
def zulu (t : Instant) : String := String.ofList (zuluChars t)

/-! ## Reading -/

/-- Reads a number of `least` to `most` digits. -/
def number? (least most : Nat) (cs : List Char) : Option (Nat × List Char) :=
  let ds := (Digits.span cs).1.take most
  if ds.length < least then none else some (Digits.value ds, cs.drop ds.length)

/-- Reads one given character. -/
def literal? (c : Char) : List Char → Option (List Char)
  | [] => none
  | x :: xs => if x = c then some xs else none

/-- Reads what stands between date and time. -/
def separator? : List Char → Option (List Char)
  | 'T' :: cs => some cs
  | 't' :: cs => some cs
  | ' ' :: cs => some cs
  | _ => none

/-- Reads a fraction of a second, if there is a point, as nanoseconds. Digits after the ninth do not
count. -/
def fraction? : List Char → Option (Nat × List Char)
  | '.' :: cs =>
    let (ds, rest) := Digits.span cs
    if ds.isEmpty then none
    else
      let kept := ds.take 9
      some (Digits.value kept * 10 ^ (9 - kept.length), rest)
  | cs => some (0, cs)

/-- Reads a zone as its offset in minutes: `Z`, or a sign, two digits of hours, what `between` passes
over, and two digits of minutes. -/
def offset? (between : List Char → Option (List Char)) : List Char → Option (Int × List Char)
  | [] => none
  | c :: cs =>
    if c = 'Z' ∨ c = 'z' then some (0, cs)
    else if c = '+' ∨ c = '-' ∨ c = '\u2212' then do
      let (hours, cs) ← number? 2 2 cs
      let cs ← between cs
      let (minutes, cs) ← number? 2 2 cs
      if hours ≤ 23 ∧ minutes ≤ 59 then
        let offset : Int := 60 * hours + minutes
        some (if c = '+' then offset else -offset, cs)
      else none
    else none

/-- Reads an instant that takes up the whole text. -/
def ofRfc3339Chars? (cs : List Char) : Option Instant := do
  let (year, cs) ← number? 4 4 cs
  let cs ← literal? '-' cs
  let (month, cs) ← number? 2 2 cs
  let cs ← literal? '-' cs
  let (day, cs) ← number? 2 2 cs
  let cs ← separator? cs
  let (hour, cs) ← number? 2 2 cs
  let cs ← literal? ':' cs
  let (minute, cs) ← number? 2 2 cs
  let cs ← literal? ':' cs
  let (second, cs) ← number? 2 2 cs
  let (nanos, cs) ← fraction? cs
  let (offset, cs) ← offset? (literal? ':') cs
  if cs.isEmpty then
    (WallClock.mk ⟨year, month, day⟩ hour minute second nanos).toInstant? offset
  else none

/-- Reads an instant that takes up the whole text. -/
def ofRfc3339? (s : String) : Option Instant := ofRfc3339Chars? s.toList

end SimilarItems.Instant
