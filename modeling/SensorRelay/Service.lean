import SensorRelay.Auth.Header
import SensorRelay.Message
import SensorRelay.Rpc.Delivery
import SensorRelay.Uuid

/-!
# Services

What a peer can ask of whatever answers its calls. Questions are answered at once. The two calls
that stay open have a number; their request half carries uploads, and everything that comes back on
them is a signal.
-/

namespace SensorRelay

open Auth Rpc

abbrev CallId := Nat

/-- What happens on the request half of an open call. A broken half ends with something that is no
message; an abandoned call is no longer listened to. -/
inductive Upload (α : Type)
  | message (a : α)
  | halfClose
  | broken
  | abandoned
deriving DecidableEq, Repr

namespace Upload

def map {α β : Type} (f : α → β) : Upload α → Upload β
  | message a => message (f a)
  | halfClose => halfClose
  | broken => broken
  | abandoned => abandoned

def isLast {α : Type} : Upload α → Bool
  | message _ => false
  | _ => true

end Upload

/-- What comes back on an open call: frames and the end of a subscription, or the one answer to a
measurement stream. -/
inductive Signal
  | frame (call : CallId) (f : SubscriptionResponse)
  | ended (call : CallId)
  | failed (call : CallId) (s : Status)
  | answered (call : CallId) (r : Except Status Unit)

namespace Signal

def call : Signal → CallId
  | frame c _ | ended c | failed c _ | answered c _ => c

def isLast : Signal → Bool
  | frame .. => false
  | _ => true

def delivered : Signal → Signal
  | failed c s => (s.failure?.map (failed c)).getD (ended c)
  | answered c r => answered c (Rpc.answered r)
  | x => x

end Signal

/-- The moment of a call and an id that was never used before. -/
structure Occasion where
  now : Instant
  freshId : Uuid

structure SensorCredentials where
  token : Token
  id : String
deriving DecidableEq

/-- Roster entries, and the status that broke them off if one did. -/
structure RosterAnswer where
  entries : List SensorInfo
  failure : Option Status
deriving DecidableEq

class Service (σ : Type) where
  registerSensor : SensorRegistration → Occasion → StateM σ (Except Status SensorCredentials)
  registerClient : ClientRegistration → Occasion → StateM σ (Except Status Token)
  logIn : (login password : String) → Occasion → StateM σ (Except Status Token)
  roster : (tags : List String) → StateM σ (Except Status RosterAnswer)
  history : HistoryRequest → StateM σ (Except Status HistoryResponse)
  /-- A refused call is answered at once. -/
  openMeasurements : CallId → Option HeaderValue → StateM σ (List Signal)
  uploadMeasurement : CallId → Upload MeasurementRequest → Occasion → StateM σ (List Signal)
  /-- An accepted call may bring signals at once. -/
  openSubscription : CallId → Option HeaderValue → StateM σ (Except Status (List Signal))
  uploadControl : CallId → Upload SubscribeRequest → StateM σ (List Signal)

end SensorRelay
