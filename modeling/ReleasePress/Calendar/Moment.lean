import ReleasePress.Calendar.Day

/-!
# Moments

A moment is an instant together with the offset of the local time it is written in.  Instants are
counted in seconds since 1970-01-01 00:00 UTC, without leap seconds; a moment inside a leap second is
the second before it with a full second more in its fraction.

## Main declarations

* `Moment`: an instant with an offset.
* `Moment.localDay`, `Moment.secondOfDay` and the clock fields: the views in local time.
* `Moment.ofLocal?`: the moment that reads so on a clock with the given offset.
* `Moment.ofSeconds?`: an instant in universal time.
* `Moment.nanosecondsSince`: how long after another moment.
-/

namespace ReleasePress

/-- An instant and the offset, in seconds east of universal time, of the clock that shows it. -/
structure Moment where
  /-- Seconds since 1970-01-01 00:00 UTC. -/
  seconds : Int
  /-- The fraction in nanoseconds; a leap second has a full second more. -/
  nanos : Nat
  /-- Seconds that the local clock is ahead. -/
  offset : Int
  deriving DecidableEq, Repr

namespace Moment

/-- The number of nanoseconds in a second. -/
def nanosPerSecond : Nat :=
  1000000000

/-- What the local clock shows, as seconds since 1970-01-01 00:00. -/
def localSeconds (m : Moment) : Int :=
  m.seconds + m.offset

def localDay (m : Moment) : Day :=
  ⟨m.localSeconds / 86400⟩

/-- The seconds since local midnight. -/
def secondOfDay (m : Moment) : Nat :=
  (m.localSeconds % 86400).toNat

def hour (m : Moment) : Nat :=
  m.secondOfDay / 3600

def minute (m : Moment) : Nat :=
  m.secondOfDay / 60 % 60

/-- The second of the minute, which is 60 in a leap second. -/
def second (m : Moment) : Nat :=
  m.secondOfDay % 60 + m.nanos / nanosPerSecond

/-- The fraction of the second. -/
def fraction (m : Moment) : Nat :=
  m.nanos % nanosPerSecond

/-- The same instant on another clock. -/
def withOffset (offset : Int) (m : Moment) : Moment :=
  { m with offset }

/-- Whether the day of the instant, in universal time, is a date. -/
def inRange (m : Moment) : Bool :=
  Day.inRange ⟨m.seconds / 86400⟩

/-- A moment whose day is a date. -/
def checked (m : Moment) : Option Moment :=
  if m.inRange then some m else none

/-- The instant `seconds` after 1970-01-01 00:00 UTC. -/
def ofSeconds? (seconds : Int) : Option Moment :=
  checked ⟨seconds, 0, 0⟩

/-- The moment at which a clock with the offset shows the day and the second of the day. -/
def ofLocal? (day : Day) (secondOfDay nanos : Nat) (offset : Int) : Option Moment :=
  checked ⟨day.number * 86400 + secondOfDay - offset, nanos, offset⟩

/-- The leap second that the clock passes between two times of day, counted with the sign of the
direction. -/
def leapCorrection (m other : Moment) : Int :=
  let now := m.seconds % 86400
  let past := other.seconds % 86400
  if now > past && other.nanos ≥ nanosPerSecond then 1
  else if now < past && m.nanos ≥ nanosPerSecond then -1
  else 0

/-- How many nanoseconds after `other` the moment is. -/
def nanosecondsSince (m other : Moment) : Int :=
  (m.seconds - other.seconds + leapCorrection m other) * nanosPerSecond + (m.nanos - other.nanos)

end Moment

end ReleasePress
