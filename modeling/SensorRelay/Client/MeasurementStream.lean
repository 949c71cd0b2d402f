import SensorRelay.Client.RandomSource
import SensorRelay.Error
import SensorRelay.Service

/-!
# The measurement stream of a sensor

One stream at a time. Starting opens a call; only the answer to that call makes the stream idle
again, also after its request half was closed. Records wait in a bounded queue until they are sent.
-/

namespace SensorRelay.Client

open Auth Rpc

inductive StreamNotice
  | opened
  | closed
  | failed (e : Error)
deriving DecidableEq, Repr

inductive StartOutcome
  | started
  | alreadyStreaming
deriving DecidableEq, Repr

inductive EndOutcome
  | ending
  | noStream
deriving DecidableEq, Repr

inductive ValueSource
  | counting (next : Double)
  | random (source : RandomSource)
deriving DecidableEq, Repr

def ValueSource.next : ValueSource → Double × ValueSource
  | counting x => (x, counting (x.plus 1))
  | random s => let (x, s) := s.next; (x, random s)

/-- Pushes a value in every period, first at `due`; times are in milliseconds. -/
structure Emitter where
  period : Nat
  due : Nat
  source : ValueSource
deriving DecidableEq, Repr

/-- A call that is not answered yet. Nothing is queued once it is no longer `sending`. -/
structure LiveStream where
  generation : Nat
  call : CallId
  sending : Bool
  outgoing : List (Upload MeasurementRequest)
  emitter : Option Emitter
deriving DecidableEq, Repr

/-- `started` counts the calls so far. -/
structure MeasurementStream where
  started : Nat
  live : Option LiveStream
deriving DecidableEq, Repr

namespace MeasurementStream

variable (m : MeasurementStream)

def idle : MeasurementStream := ⟨0, none⟩

def isStreaming : Bool := m.live.isSome

def noStreamError : Error := ⟨.usage, "No stream is opened"⟩

def fullError : Error := ⟨.stream, "measurement buffer is full"⟩

def queueLimit : Nat := 64

def begin (call : CallId) : MeasurementStream :=
  let generation := m.started + 1
  ⟨generation, some ⟨generation, call, true, [], none⟩⟩

/-- Opens no second call. A token that cannot be attached changes nothing. -/
def start (call : CallId) (token : Token) : Except Error StartOutcome × MeasurementStream :=
  if m.isStreaming then (.ok .alreadyStreaming, m)
  else
    match token.attach with
    | .error e => (.error e, m)
    | .ok _ => (.ok .started, m.begin call)

def push (value : Double) (madeAt : Instant) : Except Error Unit × MeasurementStream :=
  match m.live with
  | some l =>
    if !l.sending then (.error noStreamError, m)
    else if queueLimit ≤ l.outgoing.length then (.error fullError, m)
    else
      let record : MeasurementRequest := ⟨value, some madeAt.timestamp⟩
      (.ok (), { m with live := some { l with outgoing := l.outgoing ++ [.message record] } })
  | none => (.error noStreamError, m)

/-- Replaces the emitter that was attached before. -/
def attachEmitter (e : Emitter) : Except Error Unit × MeasurementStream :=
  match m.live with
  | some l =>
    if l.sending then (.ok (), { m with live := some { l with emitter := some e } })
    else (.error noStreamError, m)
  | none => (.error noStreamError, m)

/-- Closes the request half, once. -/
def finish : EndOutcome × MeasurementStream :=
  match m.live with
  | some l =>
    let outgoing := if l.sending then l.outgoing ++ [.halfClose] else l.outgoing
    let l := { l with sending := false, outgoing := outgoing, emitter := none }
    (.ending, { m with live := some l })
  | none => (.noStream, m)

def noticeOf : Except Status Unit → StreamNotice
  | .ok _ => .closed
  | .error s => .failed (Error.ofStreamStatus s)

def answered (generation : Nat) (r : Except Status Unit) : StreamNotice × MeasurementStream :=
  (noticeOf r, if m.live.any (·.generation = generation) then { m with live := none } else m)

def takeOutgoing : List (Upload MeasurementRequest) × MeasurementStream :=
  match m.live with
  | some l => (l.outgoing, { m with live := some { l with outgoing := [] } })
  | none => ([], m)

/-- When the attached emitter pushes next. An emitter without a period never does. -/
def due? : Option Nat :=
  (m.live.bind (·.emitter)).bind fun e => if e.period = 0 then none else some e.due

def tick (madeAt : Instant) : MeasurementStream :=
  match m.live with
  | some l =>
    match l.emitter with
    | some e =>
      let (value, source) := e.source.next
      let next := { e with due := e.due + e.period, source := source }
      (({ m with live := some { l with emitter := some next } } : MeasurementStream).push
        value madeAt).2
    | none => m
  | none => m

end MeasurementStream
end SensorRelay.Client
