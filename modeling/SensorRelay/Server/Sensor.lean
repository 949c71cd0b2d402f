import SensorRelay.Server.Feed
import SensorRelay.Server.History
import SensorRelay.Uuid

/-!
# Registered sensors

A sensor's description, its stored status, its history and the feed of its events. Every change of
status and every record is published.
-/

namespace SensorRelay

structure Sensor where
  id : Uuid
  name : String
  location : String
  tags : List String
  status : OnlineStatus
  history : History
  feed : Feed SensorEvent

namespace Sensor

variable (s : Sensor)

def registered (id : Uuid) (r : SensorRegistration) (historyCapacity eventBuffer : Nat) : Sensor :=
  ⟨id, r.name, r.location, r.tags, .offline, .empty historyCapacity, .empty eventBuffer⟩

def publish (e : SensorEvent) : Sensor :=
  { s with feed := s.feed.publish e }

def announce (status : OnlineStatus) : Sensor :=
  s.publish (.statusChanged s.id.text status)

/-- Nothing happens to a sensor that is online already. -/
def goOnline? : Option Sensor :=
  if s.status = .online then none
  else some (({ s with status := .online } : Sensor).announce .online)

/-- The stored status becomes offline, whatever is announced. -/
def goOffline (announced : OnlineStatus) : Sensor :=
  ({ s with status := .offline } : Sensor).announce announced

def record (m : Measurement) : Sensor :=
  ({ s with history := s.history.push m } : Sensor).publish (.measured m)

def hasAnyTag (tags : List String) : Bool :=
  s.tags.any tags.contains

def info : SensorInfo :=
  ⟨s.id.text, s.name, s.location, s.tags, s.status.number⟩

end Sensor
end SensorRelay
