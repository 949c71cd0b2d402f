import SensorRelay.Network.Basic

/-!
# Measurement streams on a network

Starting, pushing and ending, and the passing of time for emitters.
-/

namespace SensorRelay.Network

open Auth Client Rpc

variable {σ : Type} [Service σ]

/-- Sends one upload of a stream, unless its call is over. -/
def sendMeasurement (call : CallId) (u : Upload MeasurementRequest) : NetworkM σ Unit := do
  if (← get).isLive call then
    let o ← occasion
    receiveAll (← ask (Service.uploadMeasurement call (u.map MeasurementRequest.transmitted) o))

def flush (name : String) : NetworkM σ Unit := do
  match ((← get).stream name).live with
  | none => return
  | some l =>
    let outgoing ← onStream name MeasurementStream.takeOutgoing
    outgoing.forM (sendMeasurement l.call)

def openStream (name : String) (token : Token) : NetworkM σ Unit := do
  match ((← get).stream name).live, token.attach with
  | some l, .ok header =>
    modify fun n => { n with owners := (l.call, .stream name l.generation) :: n.owners }
    receiveAll (← ask (Service.openMeasurements l.call (some header)))
  | _, _ => return

/-- Starts a stream whose call is still to be opened. -/
def begin (name : String) (token : Token) : NetworkM σ (Except Error StartOutcome) := do
  let call := (← get).nextCall
  modify fun n => { n with nextCall := call + 1 }
  let outcome ← onStream name (MeasurementStream.start · call token)
  if let .ok .started := outcome then modify (report (.notice name .opened))
  return outcome

def start (name : String) (token : Token) : NetworkM σ (Except Error StartOutcome) := do
  let outcome ← begin name token
  if let .ok .started := outcome then openStream name token
  return outcome

def push (name : String) (value : Double) (madeAt : Instant) : NetworkM σ (Except Error Unit) := do
  let outcome ← onStream name (MeasurementStream.push · value madeAt)
  flush name
  return outcome

/-- Pushes a record for every pair before anything is sent; tells how many were accepted, and the
first error. -/
def pushAll (name : String) (records : List (Double × Instant)) :
    NetworkM σ (Nat × Option Error) := do
  let outcomes ← records.mapM fun (value, madeAt) =>
    onStream name (MeasurementStream.push · value madeAt)
  flush name
  let errors := outcomes.filterMap fun
    | .ok _ => none
    | .error e => some e
  return (outcomes.length - errors.length, errors.head?)

def finish (name : String) : NetworkM σ EndOutcome := do
  let outcome ← onStream name MeasurementStream.finish
  flush name
  return outcome

/-- Attaches an emitter whose first value comes one period from now. -/
def emit (name : String) (period : Nat) (source : ValueSource) :
    NetworkM σ (Except Error Unit) := do
  let elapsed := (← get).elapsed
  onStream name (MeasurementStream.attachEmitter · ⟨period, elapsed + period, source⟩)

/-- The emitter that pushes next, if it does until `limit`. -/
def nextDue (n : Network σ) (limit : Nat) : Option (Nat × String) :=
  n.streams.foldl
    (fun best (name, m) =>
      match m.due?, best with
      | some due, none => if due ≤ limit then some (due, name) else none
      | some due, some (earliest, _) => if due < earliest then some (due, name) else best
      | none, _ => best)
    none

def ticksUntil (n : Network σ) (limit : Nat) : Nat :=
  n.streams.foldl (fun ticks (_, m) =>
    match m.live.bind (·.emitter) with
    | some e => ticks + (limit - e.due) / e.period + 1
    | none => ticks) 0

/-- Lets the emitters push in the order of their times. The fuel bounds the number of values. -/
def runEmitters (limit : Nat) : Nat → NetworkM σ Unit
  | 0 => return
  | fuel + 1 => do
    match (← get).nextDue limit with
    | none => return
    | some (due, name) =>
      modify fun n => { n with elapsed := due }
      let moment ← now
      onStream name fun m => ((), m.tick moment)
      flush name
      runEmitters limit fuel

def wait (ms : Nat) : NetworkM σ Unit := do
  let n ← get
  let limit := n.elapsed + ms
  runEmitters limit (n.ticksUntil limit)
  modify fun n => { n with elapsed := limit }

def waitForValues (name : String) (count : Nat) : NetworkM σ Unit := do
  if let some e := ((← get).stream name).live.bind (·.emitter) then
    wait (e.period * count)

end SensorRelay.Network
