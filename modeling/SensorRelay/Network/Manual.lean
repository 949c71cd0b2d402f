import SensorRelay.Network.Basic
import SensorRelay.Wire.Codec

/-!
# Calls made by hand

Calls whose messages are made outside of any session, so that they may be anything: also bytes that
are no message.
-/

namespace SensorRelay.Network

open Auth Client Rpc

variable {σ : Type} [Service σ]

inductive HandMade
  | bytes (content : List UInt8)
  | fields (m : MeasurementRequest) (r : SubscribeRequest)
deriving DecidableEq, Repr

/-- Bytes that are no message break the request half. -/
def uploadOf {α : Type} (m : Option α) : Upload α :=
  match m with
  | some a => .message a
  | none => .broken

def HandMade.measurement : HandMade → Upload MeasurementRequest
  | bytes content => uploadOf (Wire.measurementRequest.decode content)
  | fields m _ => .message m.transmitted

def HandMade.control : HandMade → Upload SubscribeRequest
  | bytes content => uploadOf (Wire.subscribeRequest.decode content)
  | fields _ r => .message r

def uploadManual (c : ManualCall) (m : Upload MeasurementRequest) (r : Upload SubscribeRequest) :
    NetworkM σ Unit := do
  if (← get).isLive c.call then
    match c.kind with
    | .measurements =>
      let o ← occasion
      receiveAll (← ask (Service.uploadMeasurement c.call m o))
    | .subscription => receiveAll (← ask (Service.uploadControl c.call r))

def closeManual (name : String) : NetworkM σ Unit := do
  match (← get).manualCalls.lookup name with
  | none => return
  | some c =>
    if c.sending then
      modify (setManual name { c with sending := false })
      uploadManual c .halfClose .halfClose

/-- Cancels the call of that name; nothing more comes back on it. -/
def abortManual (name : String) : NetworkM σ Unit := do
  match (← get).manualCalls.lookup name with
  | none => return
  | some c =>
    modify (setManual name { c with sending := false })
    let live := (← get).isLive c.call
    modify (forget c.call)
    if live then
      match c.kind with
      | .measurements =>
        let o ← occasion
        receiveAll (← ask (Service.uploadMeasurement c.call .abandoned o))
      | .subscription => receiveAll (← ask (Service.uploadControl c.call .abandoned))

/-- Opens a call, with or without a token. A call of that name is half-closed first, and nothing of
it is reported any more. -/
def openManual (name : String) (kind : CallKind) (token : Option Token) :
    NetworkM σ (Except Error Unit) := do
  match token.mapM Token.attach with
  | .error e => return .error e
  | .ok header =>
    if let some c := (← get).manualCalls.lookup name then
      modify (disown c.call)
    closeManual name
    let call ← newCall (.manual name)
    modify (setManual name ⟨call, kind, true⟩)
    match kind with
    | .measurements => receiveAll (← ask (Service.openMeasurements call header))
    | .subscription =>
      match ← ask (Service.openSubscription call header) with
      | .ok signals => receiveAll signals
      | .error s => receive (.failed call s)
    return .ok ()

/-- Sends a message on the call of that name; tells whether there ever was one. A message on a call
that is over, or whose request half was closed, is lost. -/
def sendManual (name : String) (m : HandMade) : NetworkM σ Bool := do
  match (← get).manualCalls.lookup name with
  | none => return false
  | some c =>
    if c.sending then uploadManual c m.measurement m.control
    return true

end SensorRelay.Network
