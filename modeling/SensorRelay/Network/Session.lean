import SensorRelay.Network.Basic

/-!
# Subscription sessions on a network

Opening, control frames and closing. What an accepted call brings at once is received after the
control frame that opened it was sent.
-/

namespace SensorRelay.Network

open Auth Client Rpc

variable {σ : Type} [Service σ]

/-- What a service says to a new call. A refusal with a good status is the end of the call. -/
def accepted (call : CallId) (r : Except Status (List Signal)) : Except Status (List Signal) :=
  match r with
  | .ok signals => .ok signals
  | .error s => (s.failure?.map Except.error).getD (.ok [.ended call])

def connect (name : String) (token : Token) : NetworkM σ (Except Error (List Signal)) := do
  match token.attach with
  | .error e => return .error e
  | .ok header =>
    let generation := ((← get).session name).opened + 1
    let call ← newCall (.session name generation)
    match accepted call (← ask (Service.openSubscription call (some header))) with
    | .error s =>
      modify (forget call)
      return .error (Error.ofStreamStatus s)
    | .ok signals =>
      onSession name fun s => ((), s.connected call)
      modify (report (.event name (.opened generation)))
      return .ok signals

def ensureOpen (name : String) (token : Token) :
    NetworkM σ (Except Error (OpenOutcome × List Signal)) := do
  if ((← get).session name).isOpen then return .ok (.reused, [])
  return (← connect name token).map (.opened, ·)

def openSession (name : String) (token : Token) : NetworkM σ (Except Error OpenOutcome) := do
  match ← ensureOpen name token with
  | .error e => return .error e
  | .ok (outcome, signals) =>
    receiveAll signals
    return .ok outcome

def sendControl (name : String) (r : SubscribeRequest) : NetworkM σ (List Signal) := do
  match ((← get).session name).active with
  | none => return []
  | some a =>
    let signals ← ask (Service.uploadControl a.call (.message r))
    onSession name fun s => ((), s.controlled r)
    return signals

def control (name : String) (token : Token) (r : SubscribeRequest) :
    NetworkM σ (Except Error OpenOutcome) := do
  match ← ensureOpen name token with
  | .error e => return .error e
  | .ok (outcome, early) =>
    let signals ← sendControl name r
    receiveAll (early ++ signals)
    return .ok outcome

/-- Half-closes the stream; its last events still arrive. -/
def close (name : String) : NetworkM σ CloseOutcome := do
  let active := ((← get).session name).active
  let outcome ← onSession name SubscriptionSession.close
  if let some a := active then
    receiveAll (← ask (Service.uploadControl a.call .halfClose))
  return outcome

end SensorRelay.Network
