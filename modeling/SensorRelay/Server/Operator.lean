import SensorRelay.Server.Basic

/-!
# Work on the server's own directory

What an operator does to the sensors directly, without a call. Everything that one operation
publishes is delivered together at its end, so a long series can overrun a small feed.
-/

namespace SensorRelay.Server

/-- Why there is no sensor to work on. There is none in a directory without room for it. -/
inductive Absent
  | malformedId
  | notRegistered
  | noRoom
deriving DecidableEq, Repr

def sensorNamed (s : Server) (id : String) : Except Absent Sensor :=
  match Uuid.parse? id with
  | none => .error .malformedId
  | some u =>
    match s.directory.get? u with
    | some sensor => .ok sensor
    | none => .error .notRegistered

def addSensor (s : Server) (id : String) (r : SensorRegistration) : Except Absent Bool × Server :=
  match Uuid.parse? id with
  | none => (.error .malformedId, s)
  | some u =>
    match s.directory.register u r with
    | .ok d => (.ok true, { s with directory := d })
    | .error .taken => (.ok false, s)
    | .error .unbuffered => (.error .noRoom, s)

def workOn {α : Type} (s : Server) (id : String) (f : Sensor → α × Sensor) :
    Except Absent α × List Signal × Server :=
  match s.sensorNamed id with
  | .error e => (.error e, [], s)
  | .ok sensor =>
    let (answer, sensor') := f sensor
    (.ok answer, { s with directory := s.directory.set sensor.id sensor' }.deliver)

def tryOnline (sensor : Sensor) : Bool × Sensor :=
  match sensor.goOnline? with
  | some online => (true, online)
  | none => (false, sensor)

def takeOffline (announced : OnlineStatus) (sensor : Sensor) : Unit × Sensor :=
  ((), sensor.goOffline announced)

def recordSeries (records : List (Double × Instant)) (sensor : Sensor) : Nat × Sensor :=
  let sensor := records.foldl (fun x (value, i) => x.record ⟨x.id.text, value, i⟩) sensor
  (sensor.history.size, sensor)

end SensorRelay.Server
