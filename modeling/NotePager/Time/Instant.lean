/-!
# Instants

A point in time to the nanosecond, counted from the beginning of 1970 in UTC. A leap second is the
second before it with a fraction of one second or more.
-/

namespace NotePager

/-- Seconds since the beginning of 1970, and the nanoseconds after them. -/
structure Instant where
  seconds : Int
  nanos : Nat
  nanos_lt : nanos < 2000000000 := by omega
  deriving DecidableEq, Repr

namespace Instant

instance : Ord Instant := ⟨compareLex (compareOn Instant.seconds) (compareOn Instant.nanos)⟩

/-- The instant a whole number of seconds after the beginning of 1970. -/
def ofSeconds (seconds : Int) : Instant := { seconds, nanos := 0 }

instance : Inhabited Instant := ⟨ofSeconds 0⟩

end Instant

end NotePager
