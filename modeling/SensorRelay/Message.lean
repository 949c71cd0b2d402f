import SensorRelay.Double.Basic
import SensorRelay.Instant.Basic

/-!
# Messages

What travels between the peers, before it is encoded. Enumerations travel as numbers, and a number
that names nothing is resolved by the receiver.
-/

namespace SensorRelay

inductive OnlineStatus
  | unknown
  | offline
  | online
deriving DecidableEq, Repr

namespace OnlineStatus

def number : OnlineStatus → Int32
  | unknown => 0
  | offline => 1
  | online => 2

def resolve (n : Int32) : OnlineStatus :=
  if n = 1 then offline else if n = 2 then online else unknown

@[simp]
theorem resolve_number (s : OnlineStatus) : resolve s.number = s := by
  cases s <;> rfl

def name : OnlineStatus → String
  | unknown => "Unknown"
  | offline => "Offline"
  | online => "Online"

/-- The name of the number in the message schema. -/
def symbol : OnlineStatus → String
  | unknown => "SENSOR_UNKNOWN"
  | offline => "SENSOR_OFFLINE"
  | online => "SENSOR_ONLINE"

end OnlineStatus

inductive ActionStatus
  | subscriptionSuccess
  | subscriptionFailure
  | unsubscriptionSuccess
  | invalidRequest
  | disconnectOk
deriving DecidableEq, Repr

namespace ActionStatus

def number : ActionStatus → Int32
  | subscriptionSuccess => 0
  | subscriptionFailure => 1
  | unsubscriptionSuccess => 2
  | invalidRequest => 3
  | disconnectOk => 4

def resolve (n : Int32) : ActionStatus :=
  if n = 0 then subscriptionSuccess
  else if n = 1 then subscriptionFailure
  else if n = 2 then unsubscriptionSuccess
  else if n = 4 then disconnectOk
  else invalidRequest

@[simp]
theorem resolve_number (s : ActionStatus) : resolve s.number = s := by
  cases s <;> rfl

def symbol : ActionStatus → String
  | subscriptionSuccess => "SUBSCRIPTION_SUCCESS"
  | subscriptionFailure => "SUBSCRIPTION_FAILURE"
  | unsubscriptionSuccess => "UNSUBSCRIPTION_SUCCESS"
  | invalidRequest => "INVALID_REQUEST"
  | disconnectOk => "DISCONNECT_OK"

end ActionStatus

structure SensorRegistration where
  name : String
  location : String
  tags : List String
deriving DecidableEq, Repr

structure ClientRegistration where
  login : String
  password : String
  email : String
deriving DecidableEq, Repr

structure MeasurementRequest where
  value : Double
  madeAt : Option Timestamp
deriving DecidableEq, Repr

structure MeasurementResponse where
  sensorId : String
  value : Double
  madeAt : Option Timestamp
deriving DecidableEq, Repr

structure SensorInfo where
  id : String
  name : String
  location : String
  tags : List String
  onlineStatus : Int32
deriving DecidableEq, Repr

structure HistoryRequest where
  sensorId : String
  depth : Int32
deriving DecidableEq, Repr

structure HistoryResponse where
  measurements : List MeasurementResponse
  sensorStatus : Int32
deriving DecidableEq, Repr

structure SubscribeRequest where
  sensorId : String
  disconnect : Bool
deriving DecidableEq, Repr

structure ActionResult where
  status : Int32
  message : String
deriving DecidableEq, Repr

structure StatusChange where
  sensorId : String
  status : Int32
deriving DecidableEq, Repr

inductive Frame
  | action (result : ActionResult)
  | measurement (m : MeasurementResponse)
  | statusChange (c : StatusChange)
deriving DecidableEq, Repr

/-- A frame as it is received: its variant may be absent. -/
abbrev SubscriptionResponse := Option Frame

/-- A double that equals zero is not written, so it arrives without its sign; everything else
arrives as it was sent. -/
def MeasurementRequest.transmitted (m : MeasurementRequest) : MeasurementRequest :=
  { m with value := m.value.unsignedZero }

def MeasurementResponse.transmitted (m : MeasurementResponse) : MeasurementResponse :=
  { m with value := m.value.unsignedZero }

def HistoryResponse.transmitted (r : HistoryResponse) : HistoryResponse :=
  { r with measurements := r.measurements.map MeasurementResponse.transmitted }

def Frame.transmitted : Frame → Frame
  | measurement m => measurement m.transmitted
  | f => f

end SensorRelay
