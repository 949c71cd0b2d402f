import SensorRelay.Server.Basic

/-!
# The server as a service

Every call of a peer is one operation of the server, followed by the delivery of what it published.
-/

namespace SensorRelay.Server

open Auth Rpc

def statusOf {α : Type} : Except Refusal α → Except Status α
  | .ok a => .ok a
  | .error r => .error r.status

/-- What happens on a measurement call. A broken or abandoned one is announced as unknown, and
nobody is left to answer when it is abandoned. -/
def uploadMeasurement (s : Server) (call : CallId) (u : Upload MeasurementRequest)
    (receipt : Instant) : List Signal × Server :=
  if (s.measuring.lookup call).isNone then ([], s)
  else settle <|
    match u with
    | .message m => ([], s.recordMeasurement call m receipt)
    | .halfClose => ([.answered call (.ok ())], s.release call .offline)
    | .broken =>
      ([.answered call (.error Refusal.sensorStreamFailed.status)], s.release call .unknown)
    | .abandoned => ([], s.release call .unknown)

def uploadControl (s : Server) (call : CallId) (u : Upload SubscribeRequest) :
    List Signal × Server :=
  if (s.subscriber? call).isNone then ([], s)
  else settle <|
    match u with
    | .message r => s.control call r
    | .halfClose => ([.frame call (some farewell), .ended call], s.dismiss call)
    | .broken => ([.failed call Refusal.clientStreamFailed.status], s.dismiss call)
    | .abandoned => ([], s.dismiss call)

instance : Service Server where
  registerSensor r o s :=
    let (answer, s) := s.registerSensor r o
    (statusOf answer, s)
  registerClient r o s :=
    let (answer, s) := s.registerClient r o
    (statusOf answer, s)
  logIn login password o s := (statusOf (s.logIn login password o), s)
  roster tags s := (.ok ⟨s.roster tags, none⟩, s)
  history r s := (statusOf (s.history r), s)
  openMeasurements call header s :=
    let (answer, s) := s.openMeasurements call header
    settle ((match answer with
      | .ok _ => []
      | .error r => [.answered call (.error r.status)]), s)
  uploadMeasurement call u o s := s.uploadMeasurement call u o.now
  openSubscription call header s :=
    let (answer, s) := s.openSubscription call header
    (statusOf (answer.map fun _ => []), s)
  uploadControl call u s := s.uploadControl call u

end SensorRelay.Server
