import SensorRelay.Service

/-!
# Scripted services

A service that answers from a script and remembers what it received. The n-th call of a kind
follows the n-th plan of that kind; a call without a plan is served to its end.
-/

namespace SensorRelay

open Auth Rpc

namespace Scripted

/-- Answers after so many records, or when the request half is closed. -/
structure MeasurementPlan where
  after : Option Nat
  answer : Except Status Unit

/-- Frames of a subscription call and how it ends, if it does. The frames may wait for a control
frame on the same call. A held call waits after them until a later call has received a control
frame, and then sends its late frames. -/
structure SubscriptionPlan where
  awaitsControl : Bool
  frames : List SubscriptionResponse
  held : Bool
  late : List SubscriptionResponse
  ending : Option (Except Status Unit)

def MeasurementPlan.unlimited : MeasurementPlan := ⟨none, .ok ()⟩

def SubscriptionPlan.silent : SubscriptionPlan := ⟨false, [], false, [], none⟩

structure Script where
  registerSensor : Except Status SensorCredentials
  registerClient : Except Status Token
  logIn : Except Status Token
  roster : Except Status RosterAnswer
  history : Except Status HistoryResponse
  measurements : List MeasurementPlan
  subscriptions : List (Except Status SubscriptionPlan)

inductive Received
  | sensor (r : SensorRegistration)
  | client (r : ClientRegistration)
  | logIn (login password : String)
  | roster (tags : List String)
  | history (r : HistoryRequest)
  | measurements (authorization : Option String)
  | record (m : MeasurementRequest)
  | subscription (authorization : Option String)
  | control (r : SubscribeRequest)
  | controlClosed
deriving DecidableEq

inductive Phase
  | awaitingControl (p : SubscriptionPlan)
  | held (p : SubscriptionPlan)
  | resting

structure LiveSubscription where
  call : CallId
  phase : Phase
  /-- Was the end of the request half seen? -/
  requestsOver : Bool

structure LiveMeasurements where
  call : CallId
  plan : MeasurementPlan

end Scripted

structure ScriptedService where
  script : Scripted.Script
  measuring : List Scripted.LiveMeasurements
  subscribers : List Scripted.LiveSubscription
  /-- What was received, oldest first. -/
  received : List Scripted.Received

namespace ScriptedService

open Scripted

variable (s : ScriptedService)

def following (script : Script) : ScriptedService := ⟨script, [], [], []⟩

def note (r : Received) : ScriptedService :=
  { s with received := s.received ++ [r] }

def answerDue (l : LiveMeasurements) : List Signal × ScriptedService :=
  if l.plan.after = some 0 then
    ([.answered l.call l.plan.answer],
      { s with measuring := s.measuring.filter (·.call ≠ l.call) })
  else
    ([], { s with measuring := l :: s.measuring.filter (·.call ≠ l.call) })

def openMeasurements (call : CallId) (header : Option HeaderValue) :
    List Signal × ScriptedService :=
  let s := s.note (.measurements (header.bind HeaderValue.text?))
  let plan := s.script.measurements.head?.getD .unlimited
  let script := { s.script with measurements := s.script.measurements.drop 1 }
  ({ s with script := script } : ScriptedService).answerDue ⟨call, plan⟩

def uploadMeasurement (call : CallId) (u : Upload MeasurementRequest) :
    List Signal × ScriptedService :=
  match s.measuring.find? (·.call = call) with
  | none => ([], s)
  | some l =>
    match u with
    | .message m =>
      (s.note (.record m)).answerDue
        { l with plan := { l.plan with after := l.plan.after.map (· - 1) } }
    | .halfClose | .broken => s.answerDue { l with plan := { l.plan with after := some 0 } }
    | .abandoned => ([], { s with measuring := s.measuring.filter (·.call ≠ call) })

def endSignal (call : CallId) : Except Status Unit → Signal
  | .ok _ => .ended call
  | .error st => .failed call st

def endSignals (call : CallId) (p : SubscriptionPlan) : List Signal :=
  p.ending.toList.map (endSignal call)

/-- Sends the frames of a plan, and then its end unless it is held. -/
def play (call : CallId) (p : SubscriptionPlan) : List Signal × Phase :=
  let frames := p.frames.map (Signal.frame call)
  if p.held then (frames, .held p) else (frames ++ endSignals call p, .resting)

def onControl (number : CallId) (l : LiveSubscription) : List Signal × LiveSubscription :=
  match l.phase with
  | .awaitingControl p =>
    if l.call = number then
      let (signals, phase) := play l.call p
      (signals, { l with phase := phase })
    else ([], l)
  | .held p =>
    if l.call < number then
      (p.late.map (Signal.frame l.call) ++ endSignals l.call p, { l with phase := .resting })
    else ([], l)
  | .resting => ([], l)

def openSubscription (call : CallId) (header : Option HeaderValue) :
    Except Status (List Signal) × ScriptedService :=
  let s := s.note (.subscription (header.bind HeaderValue.text?))
  let plan := s.script.subscriptions.head?.getD (.ok .silent)
  let script := { s.script with subscriptions := s.script.subscriptions.drop 1 }
  match plan with
  | .error st => (.error st, { s with script := script })
  | .ok p =>
    let (signals, phase) := if p.awaitsControl then ([], .awaitingControl p) else play call p
    (.ok signals,
      { s with script := script, subscribers := s.subscribers ++ [⟨call, phase, false⟩] })

/-- The end of a request half is seen once. -/
def closeRequests (l : LiveSubscription) : ScriptedService :=
  if l.requestsOver then s
  else
    { s.note .controlClosed with
      subscribers := s.subscribers.map fun x =>
        if x.call = l.call then { x with requestsOver := true } else x }

def uploadControl (call : CallId) (u : Upload SubscribeRequest) : List Signal × ScriptedService :=
  match s.subscribers.find? (·.call = call) with
  | none => ([], s)
  | some l =>
    match u with
    | .message r =>
      let results := s.subscribers.map (onControl call)
      (results.flatMap (·.1), { s.note (.control r) with subscribers := results.map (·.2) })
    | .halfClose | .broken => ([], s.closeRequests l)
    | .abandoned =>
      let s := s.closeRequests l
      ([], { s with subscribers := s.subscribers.filter (·.call ≠ call) })

instance : Service ScriptedService where
  registerSensor r _ s := (s.script.registerSensor, s.note (.sensor r))
  registerClient r _ s := (s.script.registerClient, s.note (.client r))
  logIn login password _ s := (s.script.logIn, s.note (.logIn login password))
  roster tags s := (s.script.roster, s.note (.roster tags))
  history r s := (s.script.history, s.note (.history r))
  openMeasurements call header s := s.openMeasurements call header
  uploadMeasurement call u _ s := s.uploadMeasurement call u
  openSubscription call header s := s.openSubscription call header
  uploadControl call u s := s.uploadControl call u

end ScriptedService
end SensorRelay
