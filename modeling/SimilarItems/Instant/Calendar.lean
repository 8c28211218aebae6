import SimilarItems.Instant.Basic

/-!
# The calendar

Dates of the proleptic Gregorian calendar, and the wall clock that shows a date and a time of day.

Days are counted in years that begin with March, so that the leap day is the last of its year. Four
centuries always have 146097 days; within them a century has 36524 days, except the last, which has
one more; four years have 1461 days, except the last four of a century, which may have one less; and
a year has 365 days, except the last of four.
-/

namespace SimilarItems

/-- A date of the proleptic Gregorian calendar. -/
structure Date where
  /-- The year; the year before 1 is 0. -/
  year : Int
  /-- The month, from 1. -/
  month : Nat
  /-- The day of the month, from 1. -/
  day : Nat
deriving DecidableEq, Inhabited

namespace Date

/-- Whether a year has a leap day. -/
def isLeap (year : Int) : Bool := year % 4 == 0 && (year % 100 != 0 || year % 400 == 0)

/-- The number of days of a month. -/
def daysInMonth (year : Int) (month : Nat) : Nat :=
  if month = 2 then (if isLeap year then 29 else 28)
  else if month = 4 ∨ month = 6 ∨ month = 9 ∨ month = 11 then 30
  else 31

/-- Whether the calendar has the date. -/
def isValid (d : Date) : Bool :=
  1 ≤ d.month && d.month ≤ 12 && 1 ≤ d.day && d.day ≤ daysInMonth d.year d.month

/-- The days from the first of March of the year 0 to the beginning of 1970. -/
def daysToEpoch : Int := 719468

/-- The number of days since the beginning of 1970. -/
def toDays (d : Date) : Int :=
  let year := if d.month ≤ 2 then d.year - 1 else d.year
  let month := (d.month + 9) % 12
  let dayOfYear : Int := (153 * month + 2) / 5 + d.day - 1
  365 * year + year / 4 - year / 100 + year / 400 + dayOfYear - daysToEpoch

/-- The date a number of days after the beginning of 1970. -/
def ofDays (days : Int) : Date :=
  let n := days + daysToEpoch
  let inEra := (n % 146097).toNat
  let century := min (inEra / 36524) 3
  let inCentury := inEra - 36524 * century
  let inFourYears := inCentury % 1461
  let yearOfFour := min (inFourYears / 365) 3
  let dayOfYear := inFourYears - 365 * yearOfFour
  let year : Int :=
    400 * (n / 146097) + (100 * century + 4 * (inCentury / 1461) + yearOfFour : Nat)
  let month := (5 * dayOfYear + 2) / 153
  let day := dayOfYear - (153 * month + 2) / 5 + 1
  if month < 10 then ⟨year, month + 3, day⟩ else ⟨year + 1, month - 9, day⟩

end Date

/-- What a calendar and a clock show: a date and a time of day. Second 60 is a leap second. -/
structure WallClock where
  /-- The date. -/
  date : Date
  /-- The hour, from 0 to 23. -/
  hour : Nat
  /-- The minute, from 0 to 59. -/
  minute : Nat
  /-- The second, from 0 to 60. -/
  second : Nat
  /-- The nanoseconds of the second. -/
  nanos : Nat
deriving DecidableEq, Inhabited

namespace Instant

/-- The number of seconds in a day. -/
def secondsPerDay : Int := 86400

/-- What a clock in universal time shows at an instant. -/
def wallClock (t : Instant) : WallClock :=
  let inDay := (t.seconds % secondsPerDay).toNat
  let leap := nanosPerSecond ≤ t.nanos
  { date := Date.ofDays (t.seconds / secondsPerDay)
    hour := inDay / 3600
    minute := inDay / 60 % 60
    second := inDay % 60 + (if leap then 1 else 0)
    nanos := if leap then t.nanos - nanosPerSecond else t.nanos }

/-- The first year of which every instant can be told. -/
def firstYear : Int := -262143

/-- The last year of which every instant can be told. -/
def lastYear : Int := 262142

/-- Whether an instant lies within the years that can be told. -/
def inRange (t : Instant) : Bool :=
  (Date.mk firstYear 1 1).toDays * secondsPerDay ≤ t.seconds
    && t.seconds < (Date.mk (lastYear + 1) 1 1).toDays * secondsPerDay

end Instant

namespace WallClock

/-- Whether a clock can show this. -/
def isValid (w : WallClock) : Bool :=
  w.date.isValid && Instant.firstYear ≤ w.date.year && w.date.year ≤ Instant.lastYear
    && w.hour ≤ 23 && w.minute ≤ 59 && w.second ≤ 60

/-- The instant at which a clock that is ahead of universal time by `offset` minutes shows this. A
leap second is counted inside the second before it. -/
def toInstant? (w : WallClock) (offset : Int) : Option Instant :=
  let leap := w.second = 60
  let second := if leap then 59 else w.second
  let nanos := if leap then Instant.nanosPerSecond + w.nanos else w.nanos
  let inDay : Int := 3600 * w.hour + 60 * w.minute + second
  let t : Instant := ⟨w.date.toDays * Instant.secondsPerDay + inDay - 60 * offset, nanos⟩
  if w.isValid && t.inRange then some t else none

end WallClock

end SimilarItems
