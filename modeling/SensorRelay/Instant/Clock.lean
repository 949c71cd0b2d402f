import SensorRelay.Instant.Basic

/-!
# Clocks

A clock whose readings are a second apart.
-/

namespace SensorRelay

structure Clock where
  start : Instant
  readings : Nat

namespace Clock

def startingAt (start : Instant) : Clock := ⟨start, 0⟩

/-- The next reading. At the end of time the clock starts over. -/
def read (c : Clock) : Instant × Clock :=
  let t := c.start.timestamp
  ((Instant.ofTimestamp? ⟨t.seconds + Int64.ofNat c.readings, t.nanos⟩).getD c.start,
    { c with readings := c.readings + 1 })

def past (c : Clock) : List Instant :=
  (List.range c.readings).map fun n => (read { c with readings := n }).1

end Clock
end SensorRelay
