import SensorRelay.Measurement
import SensorRelay.Window

/-!
# Measurement history

The last measurements of one sensor, kept by arrival and read newest first by the time they were
made.
-/

namespace SensorRelay

structure History where
  window : Window Measurement

namespace History

/-- A capacity of zero keeps one measurement. -/
def empty (capacity : Nat) : History :=
  ⟨.empty (max capacity 1)⟩

/-- More measurements than this cannot be kept, not even in a history that is empty. -/
def greatestCapacity : Nat := 1 <<< 56

variable (h : History)

/-- The kept measurements, oldest arrival first. -/
def kept : List Measurement :=
  h.window.toList

def push (m : Measurement) : History :=
  ⟨h.window.push m⟩

/-- Newest first; among equal instants the earlier arrival comes first. -/
def newestFirst (ms : List Measurement) : List Measurement :=
  ms.mergeSort fun a b => !a.madeAt.before b.madeAt

def latest (depth : Nat) : List Measurement :=
  (newestFirst h.kept).take depth

def size : Nat :=
  h.window.size

end History
end SensorRelay
