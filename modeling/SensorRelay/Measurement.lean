import SensorRelay.Double.Notation
import SensorRelay.Error
import SensorRelay.Instant.Calendar
import SensorRelay.Json.Writer
import SensorRelay.Message

/-!
# Measurements and events

What a sensor publishes, what travels of it, and what a subscriber makes of a received frame.
-/

namespace SensorRelay

structure Measurement where
  sensorId : String
  value : Double
  madeAt : Instant
deriving DecidableEq

namespace Measurement

def response (m : Measurement) : MeasurementResponse :=
  ⟨m.sensorId, m.value, some m.madeAt.timestamp⟩

/-- A measurement without a valid timestamp is refused. -/
def ofResponse? (r : MeasurementResponse) : Option Measurement :=
  (r.madeAt.bind Instant.ofTimestamp?).map fun i => ⟨r.sensorId, r.value, i⟩

def timestampError : Error :=
  ⟨.protocol, "measurement without a valid timestamp"⟩

/-- So many values a second apart, each greater by one than the one before; there are none if one of
the instants does not exist. -/
def series (value : Double) (first : Timestamp) (count : Nat) : Option (List (Double × Instant)) :=
  (List.range count).mapM fun k =>
    (Instant.ofTimestamp? ⟨first.seconds + Int64.ofNat k, first.nanos⟩).map (value.plus k, ·)

def json (m : Measurement) : Json :=
  .object [
    ("sensor_id", .string m.sensorId),
    ("value", if m.value.isFinite then .number m.value.json else .null),
    ("made_at", .string m.madeAt.zulu)]

end Measurement

inductive SensorEvent
  | statusChanged (sensorId : String) (status : OnlineStatus)
  | measured (m : Measurement)
deriving DecidableEq

def SensorEvent.frame : SensorEvent → Frame
  | statusChanged id status => .statusChange ⟨id, status.number⟩
  | measured m => .measurement m.response

def actionFrame (status : ActionStatus) (message : String) : Frame :=
  .action ⟨status.number, message⟩

inductive Unrecognized
  | noVariant
  | invalidTimestamp
deriving DecidableEq, Repr

def Unrecognized.reason : Unrecognized → String
  | noVariant => "no event variant populated"
  | invalidTimestamp => Measurement.timestampError.message

inductive SubscriberEvent
  | action (status : ActionStatus) (message : String)
  | measurement (m : Measurement)
  | statusChanged (sensorId : String) (status : OnlineStatus)
  | unknown (why : Unrecognized)
deriving DecidableEq

namespace SubscriberEvent

def decode : SubscriptionResponse → SubscriberEvent
  | none => unknown .noVariant
  | some (.action r) => action (ActionStatus.resolve r.status) r.message
  | some (.measurement r) =>
    match Measurement.ofResponse? r with
    | some m => measurement m
    | none => unknown .invalidTimestamp
  | some (.statusChange c) => statusChanged c.sensorId (OnlineStatus.resolve c.status)

def isUnknown : SubscriberEvent → Bool
  | unknown _ => true
  | _ => false

def text : SubscriberEvent → String
  | action _ message => message
  | measurement m =>
    "Measurement received.\n    From: " ++ m.sensorId ++ "\n    Value: " ++ m.value.text ++
      "\n    Made at: " ++ m.madeAt.rfc3339
  | statusChanged id status =>
    "Sensor's online status changed. Id: " ++ id ++ " - " ++ status.name
  | unknown _ => "Unknown format of message"

end SubscriberEvent
end SensorRelay
