import Stencil.Calendar.Day

/-!
Instants, and what clocks in a zone show at them. During a leap second the count of nanoseconds runs on
past a whole second. Zones are given in minutes behind UTC; an offset of a day or more is taken as none.

Assumed of the calendar library `chrono`: its calendar is the proleptic Gregorian one, from a least to a
greatest year; a fixed offset of less than a day moves calendar and clock by its seconds and nothing else;
offsets of a day or more it does not make.
-/
namespace Stencil.Calendar

/-- Seconds from 1970-01-01T00:00:00Z, and the nanoseconds since that second. -/
structure Instant where
  seconds : Int
  nanos : Nat
deriving DecidableEq, Repr

namespace Instant

def inRange (instant : Instant) : Bool :=
  let year := (Date.ofDays (instant.seconds / 86400)).year
  leastYear ≤ year && year ≤ greatestYear

def ofMillis? (millis : Int) : Option Instant :=
  let instant : Instant := ⟨millis / 1000, (millis % 1000).toNat * 1000000⟩
  if instant.inRange then some instant else none

end Instant

/-- Seconds east of UTC. -/
def zoneSeconds (minutesBehind : Int) : Int :=
  let seconds := 60 * minutesBehind
  if -86400 < seconds && seconds < 86400 then -seconds else 0

/-- What calendar and clock show in a zone. -/
structure Local where
  days : Int
  secondOfDay : Nat
  nanos : Nat
  zone : Int

namespace Local

def ofInstant (instant : Instant) (minutesBehind : Int) : Local :=
  let zone := zoneSeconds minutesBehind
  let shown := instant.seconds + zone
  ⟨shown / 86400, (shown % 86400).toNat, instant.nanos, zone⟩

def date (clock : Local) : Date := Date.ofDays clock.days

def hour (clock : Local) : Nat := clock.secondOfDay / 3600

def minute (clock : Local) : Nat := clock.secondOfDay / 60 % 60

def second (clock : Local) : Nat := clock.secondOfDay % 60

/-- The twelve-hour clock shows twelve at midnight and at noon. -/
def hour12 (clock : Local) : Nat := if clock.hour % 12 = 0 then 12 else clock.hour % 12

end Local

end Stencil.Calendar
