import SensorRelay.Binding
import SensorRelay.Client.MeasurementStream
import SensorRelay.Client.SubscriptionSession
import SensorRelay.Instant.Clock

/-!
# Networks

One service and the named peers that are connected to it. Every operation on a network runs to
completion: all that was sent has arrived and all reactions are done when it returns. What the
peers report on the way is collected in a log.
-/

namespace SensorRelay

open Client Rpc

/-- Whose call it is. What comes back on a call of nobody is not reported. -/
inductive Owner
  | stream (name : String) (generation : Nat)
  | session (name : String) (generation : Nat)
  | manual (name : String)
  | nobody
deriving DecidableEq, Repr

inductive ManualReply
  | event (e : SubscriberEvent)
  | ended
  | failed (s : Status)
  | acknowledged
deriving DecidableEq

inductive Report
  | notice (stream : String) (n : StreamNotice)
  | event (session : String) (e : SessionEvent)
  | reply (name : String) (r : ManualReply)
deriving DecidableEq

inductive CallKind
  | measurements
  | subscription
deriving DecidableEq, Repr

/-- A call made by hand; `sending` until its request half was closed. -/
structure ManualCall where
  call : CallId
  kind : CallKind
  sending : Bool
deriving DecidableEq, Repr

/-- `elapsed` is the virtual time in milliseconds. -/
structure Network (σ : Type) where
  service : σ
  clock : Clock
  randomness : RandomSource
  elapsed : Nat
  nextCall : CallId
  owners : List (CallId × Owner)
  streams : List (String × MeasurementStream)
  sessions : List (String × SubscriptionSession)
  manualCalls : List (String × ManualCall)
  /-- What was reported, newest first. -/
  log : List Report

abbrev NetworkM (σ : Type) := StateM (Network σ)

namespace Network

variable {σ : Type}

def around (service : σ) (clock : Clock) (randomness : RandomSource) : Network σ :=
  ⟨service, clock, randomness, 0, 0, [], [], [], [], []⟩

/-- A stream is idle when it is first mentioned. -/
def stream (n : Network σ) (name : String) : MeasurementStream :=
  (n.streams.lookup name).getD .idle

def session (n : Network σ) (name : String) : SubscriptionSession :=
  (n.sessions.lookup name).getD .closed

def setStream (name : String) (m : MeasurementStream) (n : Network σ) : Network σ :=
  { n with streams := bindName name m n.streams }

def setSession (name : String) (s : SubscriptionSession) (n : Network σ) : Network σ :=
  { n with sessions := bindName name s n.sessions }

def setManual (name : String) (c : ManualCall) (n : Network σ) : Network σ :=
  { n with manualCalls := bindName name c n.manualCalls }

def report (r : Report) (n : Network σ) : Network σ :=
  { n with log := r :: n.log }

/-- Takes what was reported since the log was taken last, oldest first. -/
def takeLog : NetworkM σ (List Report) :=
  modifyGet fun n => (n.log.reverse, { n with log := [] })

def onStream {α : Type} (name : String) (f : MeasurementStream → α × MeasurementStream) :
    NetworkM σ α :=
  modifyGet fun n =>
    let (a, m) := f (n.stream name)
    (a, n.setStream name m)

def onSession {α : Type} (name : String) (f : SubscriptionSession → α × SubscriptionSession) :
    NetworkM σ α :=
  modifyGet fun n =>
    let (a, s) := f (n.session name)
    (a, n.setSession name s)

def ask {α : Type} (f : StateM σ α) : NetworkM σ α :=
  modifyGet fun n =>
    let (a, service) := f n.service
    (a, { n with service := service })

def now : NetworkM σ Instant :=
  modifyGet fun n =>
    let (i, clock) := n.clock.read
    (i, { n with clock := clock })

def occasion : NetworkM σ Occasion := do
  let moment ← now
  modifyGet fun n =>
    let (high, r) := n.randomness.nextWord
    let (low, r) := r.nextWord
    (⟨moment, .ofRandomBits (high.toBitVec ++ low.toBitVec)⟩, { n with randomness := r })

def newCall (owner : Owner) : NetworkM σ CallId :=
  modifyGet fun n =>
    (n.nextCall, { n with nextCall := n.nextCall + 1, owners := (n.nextCall, owner) :: n.owners })

def forget (call : CallId) (n : Network σ) : Network σ :=
  { n with owners := n.owners.filter (·.1 ≠ call) }

def disown (call : CallId) (n : Network σ) : Network σ :=
  { n with owners := n.owners.map fun o => if o.1 = call then (call, .nobody) else o }

def isLive (n : Network σ) (call : CallId) : Bool :=
  (n.owners.lookup call).isSome

def manualReply : Signal → ManualReply
  | .frame _ f => .event (.decode (f.map Frame.transmitted))
  | .ended _ => .ended
  | .failed _ s => .failed s
  | .answered _ (.ok _) => .acknowledged
  | .answered _ (.error s) => .failed s

def hand (owner : Owner) (x : Signal) (n : Network σ) : Network σ :=
  match owner, x with
  | .stream name g, .answered _ r =>
    let (notice, m) := (n.stream name).answered g r
    (n.setStream name m).report (.notice name notice)
  | .session name _, .frame _ f =>
    n.report (.event name (.event (.decode (f.map Frame.transmitted))))
  | .session name g, .ended _ =>
    (n.setSession name ((n.session name).release g)).report (.event name (.ended g))
  | .session name g, .failed _ s =>
    (n.setSession name ((n.session name).release g)).report
      (.event name (.failed g (Error.ofStreamStatus s)))
  | .manual name, x => n.report (.reply name (manualReply x))
  | _, _ => n

/-- What a signal does when it arrives. A subscription that is over drops its request half, which
the service may still notice. -/
def receive [Service σ] (sent : Signal) : NetworkM σ Unit := do
  let x := sent.delivered
  match (← get).owners.lookup x.call with
  | none => return
  | some owner =>
    modify (hand owner x)
    if x.isLast then
      modify (forget x.call)
      let _ ← ask (Service.uploadControl (σ := σ) x.call .abandoned)

def receiveAll [Service σ] (xs : List Signal) : NetworkM σ Unit :=
  xs.forM receive

end Network
end SensorRelay
