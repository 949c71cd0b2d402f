import SensorRelay.Server.Sensor

/-!
# The sensor directory

Sensors in the order of their registration, with an index from ids to places in that order. Neither
an id nor a pair of name and location is given twice, and a sensor needs room for at least one
event, but not for more events or measurements than there can be.
-/

namespace SensorRelay

structure Directory where
  historyCapacity : Nat
  eventBuffer : Nat
  sensors : List Sensor
  index : List (Uuid × Nat)

namespace Directory

variable (d : Directory)

def empty (historyCapacity eventBuffer : Nat) : Directory :=
  ⟨historyCapacity, eventBuffer, [], []⟩

/-- Is the id or the pair of name and location already given? -/
def isTaken (id : Uuid) (r : SensorRegistration) : Bool :=
  d.sensors.any fun s => s.id = id || (s.name = r.name && s.location = r.location)

def hasRoom : Bool :=
  0 < d.eventBuffer && d.eventBuffer ≤ Feed.greatestSize &&
    d.historyCapacity ≤ History.greatestCapacity

inductive Obstacle
  | taken
  | unbuffered
deriving DecidableEq, Repr

def register (id : Uuid) (r : SensorRegistration) : Except Obstacle Directory :=
  if d.isTaken id r then .error .taken
  else if !d.hasRoom then .error .unbuffered
  else .ok { d with
    sensors := d.sensors ++ [.registered id r d.historyCapacity d.eventBuffer]
    index := (id, d.sensors.length) :: d.index }

def get? (id : Uuid) : Option Sensor :=
  (d.index.lookup id).bind (d.sensors[·]?)

def set (id : Uuid) (s : Sensor) : Directory :=
  match d.index.lookup id with
  | some place => { d with sensors := d.sensors.set place s }
  | none => d

def modify (id : Uuid) (f : Sensor → Sensor) : Directory :=
  match d.get? id with
  | some s => d.set id (f s)
  | none => d

/-- The sensors with any of the tags; every sensor if no tag is asked for. -/
def find (tags : List String) : List Sensor :=
  d.sensors.filter fun s => tags.isEmpty || s.hasAnyTag tags

end Directory
end SensorRelay
