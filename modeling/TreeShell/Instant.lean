import TreeShell.Date

/-!
# Instants

An instant is a second since the beginning of 1970 in universal time and a fraction of it in
nanoseconds. Within a leap second the seconds stand still and the fraction goes on beyond one
second.
-/

namespace TreeShell

/-- Seconds since 1970-01-01T00:00:00Z and nanoseconds; a leap second has at least `10 ^ 9`
nanoseconds. -/
structure Instant where
  seconds : Int
  nanoseconds : Nat
deriving DecidableEq, Repr, Inhabited

namespace Instant

/-- Days since 1970-01-01. -/
def days (instant : Instant) : Int := instant.seconds / 86400

/-- The date in universal time. -/
def date (instant : Instant) : Date := Date.ofDays instant.days

/-- Seconds since midnight in universal time. -/
def secondOfDay (instant : Instant) : Nat := (instant.seconds % 86400).toNat

def hour (instant : Instant) : Nat := instant.secondOfDay / 3600

def minute (instant : Instant) : Nat := instant.secondOfDay / 60 % 60

/-- The second of the minute; 60 within a leap second. -/
def second (instant : Instant) : Nat :=
  instant.secondOfDay % 60 + instant.nanoseconds / 1000000000

def fraction (instant : Instant) : Nat := instant.nanoseconds % 1000000000

/-- Whole minutes from one instant to a later one, and none to an earlier one. -/
def minutesSince (later earlier : Instant) : Nat :=
  let elapsed := (later.seconds - earlier.seconds) * 1000000000 +
    ((later.nanoseconds : Int) - earlier.nanoseconds)
  elapsed.toNat / 60000000000

end Instant

end TreeShell
