import SensorRelay.Proofs.Network.Hosted
import SensorRelay.Proofs.Network.StreamOperations

/-!
# Tapped services

A service on whose measurement calls somebody listens in. What is asked on them is noted, each time
with the service as it was before, and then asked of the service. What comes back ends no
measurement call but by an answer.
-/

namespace SensorRelay

open Auth Client Rpc

/-- What was asked on a measurement call: that it be opened, or something on its request half. -/
inductive Note (σ : Type)
  | opened (call : CallId) (header : Option HeaderValue) (before : σ)
  | uploaded (call : CallId) (u : Upload MeasurementRequest) (o : Occasion) (before : σ)

namespace Note

variable {σ : Type}

def opened? : Note σ → Option CallId
  | opened call _ _ => some call
  | uploaded .. => none

/-- What was uploaded, if it was on this call. -/
def upload? (k : CallId) : Note σ → Option (Upload MeasurementRequest)
  | opened .. => none
  | uploaded call u _ _ => if call = k then some u else none

end Note

/-- A service and the notes that were taken, oldest first. -/
structure Tapped (σ : Type) where
  inner : σ
  wire : List (Note σ)

namespace Tapped

variable {σ : Type}

/-- The calls in the order of their opening. -/
def openings (s : Tapped σ) : List CallId :=
  s.wire.filterMap Note.opened?

/-- What was sent on a call, oldest first. -/
def sentOn (s : Tapped σ) (k : CallId) : List (Upload MeasurementRequest) :=
  s.wire.filterMap (Note.upload? k)

section Noted

variable {s s' : Tapped σ} {e : Note σ} (h : s'.wire = s.wire ++ [e])

include h

theorem openings_noted : s'.openings = s.openings ++ e.opened?.toList := by
  rw [openings, openings, h, List.filterMap_append]
  cases he : e.opened? <;> simp [he]

theorem sentOn_noted (k : CallId) : s'.sentOn k = s.sentOn k ++ (e.upload? k).toList := by
  rw [sentOn, sentOn, h, List.filterMap_append]
  cases he : e.upload? k <;> simp [he]

end Noted

/-- Asks without taking a note. -/
def pass {α : Type} (f : StateM σ α) : StateM (Tapped σ) α := fun s =>
  let x := f.run s.inner
  (x.1, { s with inner := x.2 })

/-- Asks on a measurement call. -/
def noting (e : σ → Note σ) (f : StateM σ (List Signal)) : StateM (Tapped σ) (List Signal) :=
  fun s =>
    let x := f.run s.inner
    (x.1.filter (!terminates ·), ⟨x.2, s.wire ++ [e s.inner]⟩)

instance [Service σ] : Service (Tapped σ) where
  registerSensor r o := pass (Service.registerSensor r o)
  registerClient r o := pass (Service.registerClient r o)
  logIn login password o := pass (Service.logIn login password o)
  roster tags := pass (Service.roster tags)
  history r := pass (Service.history r)
  openMeasurements call header :=
    noting (.opened call header) (Service.openMeasurements call header)
  uploadMeasurement call u o := noting (.uploaded call u o) (Service.uploadMeasurement call u o)
  openSubscription call header := pass (Service.openSubscription call header)
  uploadControl call u := pass (Service.uploadControl call u)

end Tapped

namespace Client.MeasurementStream

variable {m : MeasurementStream}

theorem push_of_silent (h : m.Silent) (value : Double) (madeAt : Instant) :
    m.push value madeAt = (.error noStreamError, m) := by
  rw [push]
  cases hl : m.live with
  | none => rfl
  | some l => simp [h l hl]

theorem attachEmitter_of_silent (h : m.Silent) (e : Emitter) :
    m.attachEmitter e = (.error noStreamError, m) := by
  rw [attachEmitter]
  cases hl : m.live with
  | none => rfl
  | some l => simp [h l hl]

end Client.MeasurementStream

namespace Network

section Runs

variable {σ : Type} {name : String} {n : Network σ}

theorem setStream_setStream (name : String) (m m' : MeasurementStream) (n : Network σ) :
    (n.setStream name m).setStream name m' = n.setStream name m' := by
  simp [setStream, bindName, List.filter_filter]

/-- Nothing but that stream was ever mentioned. -/
def Single (name : String) (n : Network σ) : Prop :=
  n.streams = [] ∨ n.streams = [(name, n.stream name)]

theorem Single.streams_setStream (h : n.Single name) (m : MeasurementStream) :
    (n.setStream name m).streams = [(name, m)] := by
  rcases h with h | h <;> simp [setStream, bindName, h]

theorem single_of_streams {m : MeasurementStream} (h : n.streams = [(name, m)]) :
    n.stream name = m ∧ n.Single name := by
  have hstream : n.stream name = m := by simp [stream, h]
  exact ⟨hstream, .inr (by rw [hstream, h])⟩

theorem Single.nextDue_eq (h : n.Single name) (limit : Nat) : n.nextDue limit =
    ((n.stream name).due?.filter (· ≤ limit)).map fun due => (due, name) := by
  rcases h with h | h
  · have hstream : n.stream name = .idle := by simp [stream, h]
    rw [hstream, nextDue, h]
    rfl
  · generalize n.stream name = m at h ⊢
    rw [nextDue, h]
    cases hdue : m.due? with
    | none => simp [hdue]
    | some due => by_cases hlimit : due ≤ limit <;> simp [hdue, hlimit, Option.filter_some]

theorem run_emit (name : String) (period : Nat) (source : ValueSource) (n : Network σ) :
    (emit name period source).run n =
      let x := (n.stream name).attachEmitter ⟨period, n.elapsed + period, source⟩
      (x.1, n.setStream name x.2) :=
  rfl

theorem calls_of_hand (o : Owner) (x : Signal) (n : Network σ) :
    (hand o x n).service = n.service ∧ (hand o x n).owners = n.owners ∧
      (hand o x n).nextCall = n.nextCall := by
  cases o <;> cases x <;> exact ⟨rfl, rfl, rfl⟩

variable [Service σ]

theorem run_push (name : String) (value : Double) (madeAt : Instant) (n : Network σ) :
    (push name value madeAt).run n =
      let x := (n.stream name).push value madeAt
      (x.1, ((flush name).run (n.setStream name x.2)).2) :=
  rfl

/-- What is handed to its owner leaves the service and the calls alone. -/
theorem run_receive_of_owner {x : Signal} {o : Owner}
    (ho : n.owners.lookup x.delivered.call = some o) :
    ((receive x).run n).2 =
      if x.delivered.isLast then { hand o x.delivered n with
        service := ((Service.uploadControl x.delivered.call .abandoned).run n.service).2
        owners := n.owners.filter (·.1 ≠ x.delivered.call) }
      else hand o x.delivered n := by
  have hhand := calls_of_hand o x.delivered n
  rw [run_receive, ho]
  dsimp only
  split_ifs with hlast
  · rw [← hhand.1, ← hhand.2.1]
    rfl
  · rfl

/-- An answer is handed to the stream of its call, and nothing follows on it. -/
theorem receive_answered {c : CallId} {g : Nat} (r : Except Status Unit)
    (ho : n.owners.lookup c = some (.stream name g)) :
    ((receive (.answered c r)).run n).2 =
      { hand (.stream name g) (.answered c (Rpc.answered r)) n with
        service := ((Service.uploadControl c .abandoned).run n.service).2
        owners := n.owners.filter (·.1 ≠ c) } :=
  run_receive_of_owner (x := .answered c r) ho

theorem run_flush_of_idle (h : (n.stream name).live = none) : ((flush name).run n).2 = n := by
  simp only [flush, StateT.run_bind, StateT.run_get, pure_bind, h]
  rfl

/-- What is queued leaves the queue and is sent. -/
theorem run_flush_of_live {l : LiveStream} (h : (n.stream name).live = some l) :
    let emptied :=
      n.setStream name { n.stream name with live := some { l with outgoing := [] } }
    ((flush name).run n).2 = ((l.outgoing.forM (sendMeasurement l.call)).run emptied).2 ∧
      flushReplies name n = repliesToAll l.call l.outgoing emptied := by
  have htake : (n.stream name).takeOutgoing =
      (l.outgoing, { n.stream name with live := some { l with outgoing := [] } }) := by
    rw [MeasurementStream.takeOutgoing, h]
  constructor
  · simp only [flush, StateT.run_bind, StateT.run_get, pure_bind, h, onStream, StateT.run_modifyGet,
      htake]
  · rw [flushReplies, h, htake]

theorem run_sendMeasurement_of_not_live {c : CallId} (u : Upload MeasurementRequest)
    (h : n.isLive c = false) : ((sendMeasurement c u).run n).2 = n := by
  simp only [sendMeasurement, StateT.run_bind, StateT.run_get, pure_bind, h, Bool.false_eq_true,
    if_false]
  rfl

/-- What is sent on a live call is asked of the service. -/
theorem run_sendMeasurement_of_live {c : CallId} (u : Upload MeasurementRequest)
    (h : n.isLive c = true) :
    let o := occasion.run n
    let x := (Service.uploadMeasurement c (u.map MeasurementRequest.transmitted) o.1).run n.service
    ((sendMeasurement c u).run n).2 = ((receiveAll x.1).run { o.2 with service := x.2 }).2 ∧
      repliesTo c u n = x.1 := by
  constructor
  · simp only [sendMeasurement, StateT.run_bind, StateT.run_get, pure_bind, h, if_true]
    rfl
  · rw [repliesTo, h, if_pos rfl]

end Runs

end Network
end SensorRelay
