import SensorRelay.Server.Accounts
import SensorRelay.Server.Refusal
import SensorRelay.Server.Subscriber

/-!
# The server

Sensors, accounts and live calls. Each operation below is one call, or one thing that happens on a
live call, and runs to completion: afterwards every subscriber has been handed all that its sensors
published.
-/

namespace SensorRelay

open Auth Rpc

structure Server where
  issuer : Issuer
  directory : Directory
  accounts : Accounts
  /-- Live measurement calls and the sensors that they hold online. -/
  measuring : List (CallId × Uuid)
  subscribers : List Subscriber

namespace Server

variable (s : Server)

def empty (issuer : Issuer) (historyCapacity eventBuffer : Nat) : Server :=
  ⟨issuer, .empty historyCapacity eventBuffer, .empty, [], []⟩

def registerSensor (r : SensorRegistration) (o : Occasion) :
    Except Refusal SensorCredentials × Server :=
  if (Text.trim r.name).isEmpty || (Text.trim r.location).isEmpty then
    (.error .sensorDetailsMissing, s)
  else
    match s.directory.register o.freshId r with
    | .error .taken => (.error .sensorTaken, s)
    | .error .unbuffered => (.error .unbuffered, s)
    | .ok d =>
      (.ok ⟨s.issuer.issue (.sensor o.freshId) o.now.seconds, o.freshId.text⟩,
        { s with directory := d })

def tokenFor (login : String) (o : Occasion) : Token :=
  s.issuer.issue (.client login) o.now.seconds

def registerClient (r : ClientRegistration) (o : Occasion) : Except Refusal Token × Server :=
  if r.login.isEmpty || r.password.isEmpty || r.email.isEmpty then
    (.error .clientDetailsMissing, s)
  else
    match s.accounts.register? r with
    | none => (.error .clientTaken, s)
    | some a => (.ok (s.tokenFor r.login o), { s with accounts := a })

def logIn (login password : String) (o : Occasion) : Except Refusal Token :=
  if s.accounts.verify login password then .ok (s.tokenFor login o) else .error .wrongCredentials

def roster (tags : List String) : List SensorInfo :=
  (s.directory.find tags).map Sensor.info

/-- A depth is checked before the id, and the id before the sensor. -/
def history (r : HistoryRequest) : Except Refusal HistoryResponse :=
  if r.depth ≤ 0 then .error .depthNotPositive
  else
    match Uuid.parse? r.sensorId with
    | none => .error .malformedSensorId
    | some id =>
      match s.directory.get? id with
      | none => .error .sensorMissing
      | some sensor =>
        .ok ⟨(sensor.history.latest r.depth.toInt.toNat).map Measurement.response,
          sensor.status.number⟩

def changeSensor (id : Uuid) (f : Sensor → Sensor) : Server :=
  { s with directory := s.directory.modify id f }

/-- The sensor whose token the header carries. -/
def sensorOf (header : Option HeaderValue) : Except Refusal Uuid :=
  match s.issuer.identify header with
  | .ok (.sensor id) => .ok id
  | .ok (.client _) => .error .notASensor
  | .error _ => .error .unauthenticated

/-- A sensor that is online already refuses another call, and takes the attempt for a call that
was abandoned. -/
def openMeasurements (call : CallId) (header : Option HeaderValue) :
    Except Refusal Unit × Server :=
  match s.sensorOf header with
  | .error r => (.error r, s)
  | .ok id =>
    match s.directory.get? id with
    | none => (.error .sensorUnavailable, s)
    | some sensor =>
      match sensor.goOnline? with
      | some online =>
        (.ok (), { s with
          directory := s.directory.set id online
          measuring := s.measuring ++ [(call, id)] })
      | none => (.error .sensorUnavailable, s.changeSensor id (·.goOffline .unknown))

/-- The measurement that a sensor makes of a request. Without a valid timestamp it was made when it
was received. -/
def measurementOf (id : Uuid) (m : MeasurementRequest) (receipt : Instant) : Measurement :=
  ⟨id.text, m.value, (m.madeAt.bind Instant.ofTimestamp?).getD receipt⟩

def recordMeasurement (call : CallId) (m : MeasurementRequest) (receipt : Instant) : Server :=
  match s.measuring.lookup call with
  | some id => s.changeSensor id (·.record (measurementOf id m receipt))
  | none => s

def release (call : CallId) (announced : OnlineStatus) : Server :=
  match s.measuring.lookup call with
  | some id =>
    { s.changeSensor id (·.goOffline announced) with
      measuring := s.measuring.filter (·.1 ≠ call) }
  | none => s

/-- The registered login whose token the header carries. -/
def loginOf (header : Option HeaderValue) : Except Refusal String :=
  match s.issuer.identify header with
  | .ok (.client login) => if s.accounts.contains login then .ok login else .error .unknownLogin
  | .ok (.sensor _) => .error .notAClient
  | .error _ => .error .unauthenticated

/-- The longest queue of frames on their way to a subscriber. -/
def greatestQueue : Nat := (1 <<< 61) - 1

def openSubscription (call : CallId) (header : Option HeaderValue) :
    Except Refusal Unit × Server :=
  match s.loginOf header with
  | .error r => (.error r, s)
  | .ok login =>
    if s.directory.eventBuffer = 0 ∨ greatestQueue < s.directory.eventBuffer then
      (.error .unbuffered, s)
    else (.ok (), { s with subscribers := s.subscribers ++ [.admitted call login] })

def subscriber? (call : CallId) : Option Subscriber :=
  s.subscribers.find? (·.call = call)

def control (call : CallId) (r : SubscribeRequest) : List Signal × Server :=
  match s.subscriber? call with
  | none => ([], s)
  | some c =>
    let (answer, c') := c.control s.directory r
    ([.frame call (some answer)],
      { s with subscribers := s.subscribers.map fun x => if x.call = call then c' else x })

def dismiss (call : CallId) : Server :=
  { s with subscribers := s.subscribers.filter (·.call ≠ call) }

def farewell : Frame :=
  actionFrame .disconnectOk "Goodbye"

/-- Hands every subscriber what its sensors have published since it last looked. -/
def deliver : List Signal × Server :=
  (s.subscribers.flatMap fun c =>
      (c.pending s.directory).map fun e => .frame c.call (some e.frame),
    { s with subscribers := s.subscribers.map (·.caughtUp s.directory) })

/-- The signals of an operation, then what it published. -/
def settle (r : List Signal × Server) : List Signal × Server :=
  let (more, s) := r.2.deliver
  (r.1 ++ more, s)

end Server
end SensorRelay
