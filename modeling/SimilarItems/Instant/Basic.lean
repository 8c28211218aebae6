/-!
# Instants

A moment of Coordinated Universal Time, to the nanosecond. A nanosecond count of a whole second
or more stands for a moment inside a leap second, which is written as second 60.
-/

namespace SimilarItems

/-- A moment of universal time. -/
structure Instant where
  /-- Whole seconds since the beginning of 1970, leap seconds not counted. -/
  seconds : Int
  /-- Nanoseconds since that second began; `10 ^ 9` and more are inside a leap second. -/
  nanos : Nat
deriving DecidableEq, Inhabited

namespace Instant

/-- The number of nanoseconds in a second. -/
def nanosPerSecond : Nat := 1000000000

/-- Whether `x` comes before `y`. -/
def before (x y : Instant) : Bool :=
  x.seconds < y.seconds || (x.seconds == y.seconds && x.nanos < y.nanos)

end Instant

end SimilarItems
