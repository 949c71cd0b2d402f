import SensorRelay.Binding
import SensorRelay.Server.Directory

/-!
# Watching a directory

Named receivers, each of the feed of one sensor. Receivers do not influence each other or the feed.
-/

namespace SensorRelay

structure Receiver where
  sensor : Uuid
  position : Nat
deriving DecidableEq

structure Watch where
  directory : Directory
  receivers : List (String × Receiver)

namespace Watch

variable (w : Watch)

def of (d : Directory) : Watch := ⟨d, []⟩

def setSensor (s : Sensor) : Watch :=
  { w with directory := w.directory.set s.id s }

/-- A new receiver starts at the end of the feed. It replaces the one of its name. -/
def subscribe (name : String) (s : Sensor) : Watch :=
  { w with receivers := bindName name ⟨s.id, s.feed.published⟩ w.receivers }

def receive? (name : String) : Option (Batch SensorEvent × Watch) := do
  let r ← w.receivers.lookup name
  let s ← w.directory.get? r.sensor
  some (s.feed.receive r.position, w.subscribe name s)

def drop (name : String) : Bool × Watch :=
  ((w.receivers.lookup name).isSome, { w with receivers := w.receivers.filter (·.1 ≠ name) })

end Watch
end SensorRelay
