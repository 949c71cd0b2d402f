import SensorRelay.Server.Directory
import SensorRelay.Service

/-!
# Subscribers

One live subscription call: the sensors that it follows and how far it has read the feed of each.
Control frames are answered in their order, and events published before a sensor was followed are
never handed out.
-/

namespace SensorRelay

structure Subscriber where
  call : CallId
  login : String
  positions : List (Uuid × Nat)
deriving DecidableEq

namespace Subscriber

variable (c : Subscriber)

def admitted (call : CallId) (login : String) : Subscriber :=
  ⟨call, login, []⟩

def follows (id : Uuid) : Bool :=
  c.positions.any (·.1 = id)

/-- Starts at the end of the sensor's feed. -/
def follow (s : Sensor) : Subscriber :=
  { c with positions := c.positions ++ [(s.id, s.feed.published)] }

def leave (id : Uuid) : Subscriber :=
  { c with positions := c.positions.filter (·.1 ≠ id) }

def missingText : String := "Sensor you specified does not exist"

/-- The answer to a control frame. Sensors are compared as UUIDs, whatever their spelling. -/
def control (d : Directory) (r : SubscribeRequest) : Frame × Subscriber :=
  match (Uuid.parse? r.sensorId).bind d.get? with
  | none => (actionFrame .invalidRequest missingText, c)
  | some s =>
    match r.disconnect, c.follows s.id with
    | true, true =>
      (actionFrame .unsubscriptionSuccess ("You have unsubscribed from sensor: " ++ s.id.text),
        c.leave s.id)
    | true, false => (actionFrame .invalidRequest "Client is not subscribed", c)
    | false, true =>
      (actionFrame .subscriptionFailure ("You are already subscribed: " ++ s.id.text), c)
    | false, false =>
      (actionFrame .subscriptionSuccess ("You are now subscribed on sensor: " ++ s.id.text),
        c.follow s)

/-- What the followed sensors have published since the subscriber last looked. Events that were
lost are passed over. -/
def pending (d : Directory) : List SensorEvent :=
  c.positions.flatMap fun (id, position) =>
    match d.get? id with
    | some s => (s.feed.receive position).events
    | none => []

def caughtUp (d : Directory) : Subscriber :=
  { c with positions := c.positions.map fun (id, position) =>
      match d.get? id with
      | some s => (id, s.feed.published)
      | none => (id, position) }

end Subscriber
end SensorRelay
