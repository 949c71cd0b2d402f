/-!
# Instants

A moment of UTC: a day, a second of the day and a nanosecond. A leap second is the second half of
a doubled last second of a minute, so there nanoseconds reach up to two thousand million.
-/

namespace SensorRelay

/-- Seconds and nanoseconds since 1970, as they travel between the peers. -/
structure Timestamp where
  seconds : Int64
  nanos : Int32
deriving DecidableEq, Repr

namespace Instant

/-- The first of January of the year -262143, counted from 1970-01-01. -/
def firstDay : Int := -96465292

/-- The last of December of the year 262142. -/
def lastDay : Int := 95026236

end Instant

structure Instant where
  day : Int
  second : Nat
  nano : Nat
  day_mem : Instant.firstDay ≤ day ∧ day ≤ Instant.lastDay := by decide
  second_lt : second < 86400 := by decide
  nano_lt : nano < 1000000000 ∨ nano < 2000000000 ∧ second % 60 = 59 := by decide
deriving DecidableEq

namespace Instant

def ofParts? (day : Int) (second nano : Nat) : Option Instant :=
  if h : (firstDay ≤ day ∧ day ≤ lastDay) ∧ second < 86400 ∧
      (nano < 1000000000 ∨ nano < 2000000000 ∧ second % 60 = 59) then
    some ⟨day, second, nano, h.1, h.2.1, h.2.2⟩
  else none

/-- Days are counted by floor division, so seconds before 1970 belong to the day they fall in. -/
def ofTimestamp? (t : Timestamp) : Option Instant :=
  if t.nanos < 0 then none
  else ofParts? (t.seconds.toInt / 86400) (t.seconds.toInt % 86400).toNat t.nanos.toInt.toNat

def seconds (i : Instant) : Int :=
  i.day * 86400 + i.second

def timestamp (i : Instant) : Timestamp :=
  ⟨Int64.ofInt i.seconds, Int32.ofInt i.nano⟩

/-- Milliseconds since 1970; those of a leap second follow its last ordinary one. -/
def milliseconds (i : Instant) : Int :=
  i.seconds * 1000 + (i.nano / 1000000 : Nat)

def before (a b : Instant) : Bool :=
  a.day < b.day || a.day = b.day &&
    (a.second < b.second || a.second = b.second && a.nano < b.nano)

end Instant
end SensorRelay
