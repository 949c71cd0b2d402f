import SensorRelay.Proofs.Client.CallHistory
import SensorRelay.Proofs.Network.StreamOperations

/-!
# A measurement stream against any service

Every order of moves on one stream, with a service that may answer as it likes and send what it
likes on any call at any time. The history of the calls says what the stream holds, what it has
announced and what it answers next.
-/

namespace SensorRelay.Network.Measuring

open Auth Client Rpc

variable {σ : Type} [Service σ]

/-- What can be done with a stream, and what its service may do on its own. -/
inductive Move (σ : Type)
  | start (token : Token)
  | push (value : Double) (madeAt : Instant)
  | emit (period : Nat) (source : ValueSource)
  | wait (ms : Nat)
  | finish
  | serve (f : StateM σ (List Signal))

inductive Outcome
  | starting (r : Except Error StartOutcome)
  | pushing (r : Except Error Unit)
  | attaching (r : Except Error Unit)
  | ending (r : EndOutcome)
  | passed

/-- Was a call opened? -/
def Outcome.isAccepted : Outcome → Bool
  | starting (.ok .started) => true
  | _ => false

/-- What an answer says about the stream before the move and after it. A start that opens no call
and an end without a stream leave everything unmoved; after an end nothing more can be sent. -/
def Outcome.Tells (name : String) (n n' : Network σ) : Outcome → Prop
  | starting (.ok .started) => (n'.stream name).started = (n.stream name).started + 1
  | starting _ => Unmoved n n'
  | ending .noStream => Unmoved n n'
  | ending .ending =>
    (n'.stream name).started = (n.stream name).started ∧ (n'.stream name).Silent
  | pushing _ | attaching _ | passed => (n'.stream name).started = (n.stream name).started

namespace Move

def perform (name : String) : Move σ → NetworkM σ Outcome
  | start token => return .starting (← Network.start name token)
  | push value madeAt => return .pushing (← Network.push name value madeAt)
  | emit period source => return .attaching (← Network.emit name period source)
  | wait ms => do
    Network.wait ms
    return .passed
  | finish => return .ending (← Network.finish name)
  | serve f => do
    receiveAll (← ask f)
    return .passed

/-- How a move is answered. -/
def expected (name : String) (n : Network σ) : Move σ → Outcome
  | start token =>
    .starting (if (n.stream name).isStreaming then .ok .alreadyStreaming
      else token.attach.map fun _ => .started)
  | push value madeAt => .pushing ((n.stream name).push value madeAt).1
  | emit period source =>
    .attaching ((n.stream name).attachEmitter ⟨period, n.elapsed + period, source⟩).1
  | finish => .ending (if (n.stream name).isStreaming then .ending else .noStream)
  | wait _ | serve _ => .passed

/-- What the service says during a move. -/
def replies (name : String) (n : Network σ) : Move σ → List Signal
  | start token =>
    match (n.stream name).isStreaming, token.attach with
    | false, .ok header => ((Service.openMeasurements n.nextCall (some header)).run n.service).1
    | _, _ => []
  | push value madeAt =>
    flushReplies name (n.setStream name ((n.stream name).push value madeAt).2)
  | emit _ _ => []
  | wait ms => emitterReplies (n.elapsed + ms) (n.ticksUntil (n.elapsed + ms)) n
  | finish => flushReplies name (n.setStream name (n.stream name).finish.2)
  | serve f => (f.run n.service).1

/-- What a move adds to the history. -/
def advance (name : String) (n : Network σ) (h : CallHistory) (m : Move σ) : CallHistory :=
  (if (m.expected name n).isAccepted then h.opened n.nextCall else h).arrivedAll
    ((m.replies name n).map Signal.delivered)

end Move

/-- The network after some moves. -/
def after (name : String) (moves : List (Move σ)) (n : Network σ) : Network σ :=
  moves.foldl (fun n m => ((m.perform name).run n).2) n

def outcomes (name : String) : List (Move σ) → Network σ → List Outcome
  | [], _ => []
  | m :: moves, n =>
    ((m.perform name).run n).1 :: outcomes name moves ((m.perform name).run n).2

/-- The history of a stream after some moves. -/
def history (name : String) : List (Move σ) → Network σ → CallHistory → CallHistory
  | [], _, h => h
  | m :: moves, n, h => history name moves ((m.perform name).run n).2 (m.advance name n h)

/-- A network whose one stream has this history. -/
structure Mirrors (name : String) (n : Network σ) (h : CallHistory) : Prop where
  orderly : h.Orderly
  started : (n.stream name).started = h.calls.length
  current : (n.stream name).current? = h.current?.map fun s => (s.generation, s.call)
  quiet : (n.stream name).Quiet
  owner : ∀ k, n.owners.lookup k = (h.listening? k).map fun s => .stream name s.generation
  log : n.log.reverse = h.notices.map (.notice name)
  numbered : ∀ s ∈ h.calls, s.call < n.nextCall
  alone : n.Alone name

variable {name : String} {n n' : Network σ} {h : CallHistory}

omit [Service σ] in
theorem mirrors_around (name : String) (service : σ) (clock : Clock) (randomness : RandomSource) :
    Mirrors name (around service clock randomness) .empty where
  orderly := .empty
  started := rfl
  current := rfl
  quiet := MeasurementStream.quiet_of_idle rfl
  owner _ := rfl
  log := rfl
  numbered _ hs := nomatch hs
  alone _ hp := nomatch hp

namespace Mirrors

variable (hm : Mirrors name n h)

include hm

omit [Service σ] in
theorem current_of_listening? {s : CallRecord} {k : CallId} (hs : h.listening? k = some s) :
    (n.stream name).current? = some (s.generation, s.call) := by
  obtain ⟨hhead, hlistens⟩ := CallHistory.listening?_eq_some_iff.mp hs
  have hlive := CallHistory.current?_eq_some_iff.mpr
    ⟨hhead, CallRecord.isLive_of_listensTo hlistens⟩
  rw [hm.current, hlive]
  rfl

omit [Service σ] in
theorem generation_of_listening? {s : CallRecord} {k : CallId} (hs : h.listening? k = some s) :
    ∀ l, (n.stream name).live = some l → l.generation = s.generation := by
  intro l hl
  have hcurrent := hm.current_of_listening? hs
  rw [MeasurementStream.current?, hl, Option.map_some, Option.some.injEq] at hcurrent
  exact congrArg Prod.fst hcurrent

omit [Service σ] in
theorem lookup_of_none {k : CallId} (hs : h.listening? k = none) : n.owners.lookup k = none := by
  rw [hm.owner, hs, Option.map_none]

omit [Service σ] in
theorem lookup_of_some {s : CallRecord} {k : CallId} (hs : h.listening? k = some s) :
    n.owners.lookup k = some (.stream name s.generation) := by
  rw [hm.owner, hs, Option.map_some]

omit [Service σ] in
/-- Whoever heard the last of a call no longer owns it. -/
theorem lookup_arrived {s : CallRecord} {x : Signal} (hs : h.listening? x.call = some s)
    (k : CallId) :
    (if x.isLast then n.owners.filter (·.1 ≠ x.call) else n.owners).lookup k =
      ((h.arrived x).listening? k).map fun s => .stream name s.generation := by
  have howner := hm.owner k
  rw [CallHistory.listening?_of_some hs] at howner
  rw [hm.orderly.listening?_arrived hs]
  cases x.isLast with
  | false =>
    rw [if_neg Bool.false_ne_true, howner]
    by_cases hk : k = x.call <;> simp [hk, CallRecord.generation_receive]
  | true =>
    rw [if_pos rfl, lookup_filter_ne, howner]
    by_cases hk : k = x.call <;> simp [hk]

theorem arrived (x : Signal) :
    Mirrors name ((receive x).run n).2 (h.arrived x.delivered) := by
  cases hs : h.listening? x.delivered.call with
  | none =>
    -- nobody owns a call that is over or was never opened
    rwa [receive_of_nobody (hm.lookup_of_none hs), hm.orderly.arrived_of_none hs]
  | some s =>
    obtain ⟨howners, hnext⟩ := calls_hand_stream name s.generation x.delivered n
    have hstream := stream_hand (hm.generation_of_listening? hs) x.delivered
    obtain ⟨service, heq⟩ := receive_of_owner (hm.lookup_of_some hs)
    rw [heq, howners]
    constructor
    case orderly => exact hm.orderly.arrived _
    case started =>
      refine (congrArg MeasurementStream.started hstream).trans ?_
      rw [CallHistory.arrived, List.length_map, ← hm.started]
      split_ifs <;> rfl
    case current =>
      refine (congrArg MeasurementStream.current? hstream).trans ?_
      rw [hm.orderly.current?_arrived hs]
      split_ifs
      · rw [hm.current_of_listening? hs, Option.map_some, CallRecord.generation_receive,
          CallRecord.call_receive]
      · rfl
    case quiet =>
      change ((hand (.stream name s.generation) x.delivered n).stream name).Quiet
      rw [hstream]
      split_ifs
      · exact hm.quiet
      · exact MeasurementStream.quiet_of_idle rfl
    case owner => exact hm.lookup_arrived hs
    case log =>
      change (hand (.stream name s.generation) x.delivered n).log.reverse = _
      rw [log_hand_stream, List.reverse_append, hm.log, hm.orderly.notices_arrived hs,
        List.map_append]
      cases answer? x.delivered <;> rfl
    case numbered =>
      intro t ht
      change t.call < (hand (.stream name s.generation) x.delivered n).nextCall
      obtain ⟨u, hu, rfl⟩ := List.mem_map.mp ht
      rw [hnext, CallRecord.call_receive]
      exact hm.numbered u hu
    case alone => exact hm.alone.hand s.generation x.delivered

omit [Service σ] in
theorem settled (hn : Settled name n n') : Mirrors name n' h where
  orderly := hm.orderly
  started := hn.stream.started.trans hm.started
  current := hn.stream.current.trans hm.current
  quiet := hn.stream.quiet hm.quiet
  owner k := by rw [hn.owners, hm.owner]
  log := by rw [hn.log, hm.log]
  numbered s hs := Nat.lt_of_lt_of_le (hm.numbered s hs) hn.nextCall
  alone := hn.alone hm.alone

omit hm in
theorem unfolds {xs : List Signal} (hn : Unfolds name n xs n') (hm : Mirrors name n h) :
    Mirrors name n' (h.arrivedAll (xs.map Signal.delivered)) := by
  induction hn generalizing h with
  | settled hn => exact hm.settled hn
  | received x n => exact hm.arrived x
  | trans _ _ ih ih' =>
    rw [List.map_append, CallHistory.arrivedAll, List.foldl_append]
    exact ih' (ih hm)

/-- Nobody listens to what is no answer to the live call. -/
theorem stream_receive_of_none {x : Signal} (hs : h.listening? x.delivered.call = none) :
    ((receive x).run n).2.stream name = n.stream name := by
  rw [receive_of_nobody (hm.lookup_of_none hs)]

theorem stream_receive_of_some {x : Signal} {s : CallRecord}
    (hs : h.listening? x.delivered.call = some s) :
    ((receive x).run n).2.stream name =
      if (answer? x.delivered).isNone then n.stream name
      else { n.stream name with live := none } := by
  obtain ⟨service, heq⟩ := receive_of_owner (hm.lookup_of_some hs)
  rw [heq]
  exact stream_hand (hm.generation_of_listening? hs) x.delivered

theorem silent_receive (x : Signal) (hsilent : (n.stream name).Silent) :
    (((receive x).run n).2.stream name).Silent := by
  cases hs : h.listening? x.delivered.call with
  | none => rwa [hm.stream_receive_of_none hs]
  | some s =>
    rw [hm.stream_receive_of_some hs]
    split_ifs
    · exact hsilent
    · exact MeasurementStream.silent_of_idle rfl

omit hm in
theorem silent_unfolds {xs : List Signal} (hn : Unfolds name n xs n') (hm : Mirrors name n h)
    (hsilent : (n.stream name).Silent) : (n'.stream name).Silent := by
  induction hn generalizing h with
  | settled hn => exact hn.stream.silent hsilent
  | received x n => exact hm.silent_receive x hsilent
  | trans hn _ ih ih' => exact ih' (hm.unfolds hn) (ih hm hsilent)

omit [Service σ] in
theorem isStreaming_eq : (n.stream name).isStreaming = h.current?.isSome := by
  have hcurrent := congrArg Option.isSome hm.current
  rwa [MeasurementStream.current?, Option.isSome_map, Option.isSome_map] at hcurrent

omit [Service σ] in
theorem withCall (hidle : (n.stream name).isStreaming = false) (service : σ) :
    Mirrors name (n.withCall name service) (h.opened n.nextCall) := by
  -- without a live call nobody listens to any number
  have hnone : h.current? = none := by
    rw [hm.isStreaming_eq] at hidle
    exact Option.isNone_iff_eq_none.mp (Option.isSome_eq_false_iff.mp hidle)
  have hstream : (n.withCall name service).stream name = (n.stream name).begin n.nextCall :=
    stream_setStream name _ _
  constructor
  case orderly => exact hm.orderly.opened hnone n.nextCall
  case started =>
    rw [hstream, MeasurementStream.begin, hm.started]
    rfl
  case current =>
    rw [hstream, MeasurementStream.begin, hm.started]
    rfl
  case quiet =>
    rw [hstream]
    rintro _ ⟨⟩ hsending
    cases hsending
  case owner =>
    intro k
    rw [CallHistory.listening?_opened]
    change ((n.nextCall, Owner.stream name ((n.stream name).started + 1)) ::
      n.owners).lookup k = _
    by_cases hk : k = n.nextCall
    · rw [hk, List.lookup_cons_self, if_pos rfl, hm.started]
      rfl
    · have hne : (k == n.nextCall) = false := by simpa using hk
      rw [if_neg hk, List.lookup_cons, hne, hm.owner, CallHistory.listening?, hnone]
      rfl
  case log =>
    change (Report.notice name .opened :: n.log).reverse = _
    rw [List.reverse_cons, hm.log, CallHistory.notices_opened, List.map_append]
    rfl
  case numbered =>
    intro s hs
    rcases List.mem_cons.mp hs with rfl | hs
    · exact Nat.lt_succ_self _
    · exact Nat.lt_succ_of_lt (hm.numbered s hs)
  case alone => exact hm.alone.setStream _

omit hm in
theorem runEmitters (limit fuel : Nat) (hm : Mirrors name n h) :
    Mirrors name ((Network.runEmitters limit fuel).run n).2
      (h.arrivedAll ((emitterReplies limit fuel n).map Signal.delivered)) := by
  induction fuel generalizing n h with
  | zero => exact hm
  | succ fuel ih =>
    rw [run_runEmitters_succ, emitterReplies]
    cases hdue : n.nextDue limit with
    | none => exact hm
    | some p =>
      obtain ⟨due, key⟩ := p
      -- no other stream was ever mentioned, so the emitter that is due is its own
      obtain rfl := hm.alone.nextDue hdue
      rw [List.map_append, CallHistory.arrivedAll, List.foldl_append]
      exact ih (hm.unfolds ((settled_ticked due key n).unfolds (unfolds_flush key _)))

omit [Service σ] in
/-- Nothing that is heard counts as a call. -/
theorem started_eq {xs : List Signal} (hm' : Mirrors name n' (h.arrivedAll xs)) :
    (n'.stream name).started = (n.stream name).started := by
  rw [hm'.started, CallHistory.length_arrivedAll, hm.started]

end Mirrors

/-- An answer that was expected, after which the network still has the history of its calls. -/
structure Accounted (name : String) (n : Network σ) (h : CallHistory) (m : Move σ)
    (answer : Outcome × Network σ) : Prop where
  outcome : answer.1 = m.expected name n
  tells : (m.expected name n).Tells name n answer.2
  mirrors : Mirrors name answer.2 (m.advance name n h)

namespace Mirrors

variable (hm : Mirrors name n h)

include hm

theorem accounted_of_refused {token : Token} {r : Except Error StartOutcome}
    (hr : r ≠ .ok .started) (hexpected : (Move.start token).expected name n = .starting r)
    (hreplies : (Move.start token).replies name n = []) :
    Accounted name n h (.start token)
      (.starting r, { n with nextCall := n.nextCall + 1 }.setStream name (n.stream name)) := by
  have hm' := hm.settled (settled_setStream_self name (Nat.le_succ n.nextCall))
  have hunmoved := unmoved_setStream name n (n.nextCall + 1)
  cases r with
  | error e =>
    exact ⟨hexpected.symm, by rwa [hexpected], by rwa [Move.advance, hexpected, hreplies]⟩
  | ok outcome =>
    cases outcome with
    | started => exact absurd rfl hr
    | alreadyStreaming =>
      exact ⟨hexpected.symm, by rwa [hexpected], by rwa [Move.advance, hexpected, hreplies]⟩

theorem accounted_start (token : Token) :
    Accounted name n h (.start token) (((Move.start token).perform name).run n) := by
  change Accounted name n h (.start token)
    (.starting ((Network.start name token).run n).1, ((Network.start name token).run n).2)
  cases hs : (n.stream name).isStreaming with
  | true =>
    rw [start_of_streaming token hs]
    refine hm.accounted_of_refused nofun ?_ ?_
    · rw [Move.expected, hs, if_pos rfl]
    · rw [Move.replies, hs]
  | false =>
    cases htoken : token.attach with
    | error e =>
      rw [start_of_unattachable hs htoken]
      refine hm.accounted_of_refused nofun ?_ ?_
      · rw [Move.expected, hs, htoken]
        rfl
      · rw [Move.replies, hs, htoken]
    | ok header =>
      have hexpected : (Move.start token).expected name n = .starting (.ok .started) := by
        rw [Move.expected, hs, htoken]
        rfl
      have hreplies : (Move.start token).replies name n =
          ((Service.openMeasurements n.nextCall (some header)).run n.service).1 := by
        rw [Move.replies, hs, htoken]
      rw [start_of_idle hs htoken]
      generalize (Service.openMeasurements n.nextCall (some header)).run n.service = answer
        at hreplies ⊢
      have hopened := hm.withCall hs answer.2
      have hm' := unfolds (unfolds_receiveAll name answer.1 _) hopened
      refine ⟨hexpected.symm, ?_, by rwa [Move.advance, hexpected, hreplies]⟩
      rw [hexpected]
      refine (hopened.started_eq hm').trans ?_
      rw [hopened.started, hm.started]
      rfl

theorem accounted_finish :
    Accounted name n h .finish ((Move.finish.perform name).run n) := by
  change Accounted name n h .finish
    (.ending ((Network.finish name).run n).1, ((Network.finish name).run n).2)
  have hfinished := hm.settled (.setStream (MeasurementStream.keeps_finish _))
  have hm' := unfolds (unfolds_flush name _) hfinished
  constructor
  · change Outcome.ending (n.stream name).finish.1 = _
    rw [Move.expected, MeasurementStream.isStreaming, MeasurementStream.finish]
    cases (n.stream name).live <;> rfl
  · cases hlive : (n.stream name).live with
    | none =>
      have hexpected : Move.finish.expected name n = .ending .noStream := by
        rw [Move.expected, MeasurementStream.isStreaming, hlive]
        rfl
      rw [hexpected, run_finish_of_idle hlive]
      exact unmoved_setStream name n n.nextCall
    | some l =>
      have hexpected : Move.finish.expected name n = .ending .ending := by
        rw [Move.expected, MeasurementStream.isStreaming, hlive]
        rfl
      rw [hexpected]
      refine ⟨hm.started_eq hm', silent_unfolds (unfolds_flush name _) hfinished ?_⟩
      rw [stream_setStream]
      exact MeasurementStream.silent_finish _
  · exact hm'

/-- A move is answered as expected, the history is kept, and the answer tells what became of the
stream. -/
theorem perform (m : Move σ) : Accounted name n h m ((m.perform name).run n) := by
  cases m with
  | start token => exact hm.accounted_start token
  | push value madeAt =>
    have hm' := unfolds
      (unfolds_setStream_flush (MeasurementStream.keeps_push _ value madeAt)) hm
    exact ⟨rfl, hm.started_eq hm', hm'⟩
  | emit period source =>
    have hm' := hm.settled (.setStream (MeasurementStream.keeps_attachEmitter _
      ⟨period, n.elapsed + period, source⟩))
    exact ⟨rfl, hm'.started.trans hm.started.symm, hm'⟩
  | wait ms =>
    have hrun := hm.runEmitters (n.elapsed + ms) (n.ticksUntil (n.elapsed + ms))
    have hm' := hrun.settled (settled_elapsed name (n.elapsed + ms) _)
    exact ⟨rfl, hm.started_eq hm', hm'⟩
  | finish => exact hm.accounted_finish
  | serve f =>
    have hserviced : Settled name n { n with service := (f.run n.service).2 } :=
      .of_streams rfl rfl (Nat.le_refl _) rfl
    have hm' := unfolds (hserviced.unfolds (unfolds_receiveAll name (f.run n.service).1 _)) hm
    exact ⟨rfl, hm.started_eq hm', hm'⟩

theorem after (moves : List (Move σ)) :
    Mirrors name (Measuring.after name moves n) (history name moves n h) := by
  induction moves generalizing n h with
  | nil => exact hm
  | cons m moves ih => exact ih (hm.perform m).mirrors

/-- Every accepted start opens one call, and nothing else does. -/
theorem length_history (moves : List (Move σ)) :
    (history name moves n h).calls.length =
      h.calls.length + (outcomes name moves n).countP Outcome.isAccepted := by
  induction moves generalizing n h with
  | nil => rfl
  | cons m moves ih =>
    have hm' := hm.perform m
    have hadvance : (m.advance name n h).calls.length =
        h.calls.length + if (m.expected name n).isAccepted then 1 else 0 := by
      rw [Move.advance, CallHistory.length_arrivedAll]
      split_ifs <;> rfl
    rw [history, ih hm'.mirrors, hadvance, outcomes, List.countP_cons, hm'.outcome]
    omega

end Mirrors

/-- How a measurement stream stands to the history of its calls. It is streaming exactly while one
call is live, and carries the generation of that call; otherwise no call is live. Only an answer
that the live call hears makes it idle, and no other signal changes it. Openings and answers take
turns in what is announced, one opening for every call. Every move is answered as the stream and the
token allow; a start that opens no call, and an end without a stream, change nothing. -/
structure LifeCycle (name : String) (n : Network σ) (h : CallHistory) : Prop where
  orderly : h.Orderly
  streaming : (n.stream name).isStreaming = true ↔
    ∃ s l, h.calls.filter (·.isLive) = [s] ∧ (n.stream name).live = some l ∧
      l.generation = s.generation ∧ l.call = s.call
  idle : (n.stream name).isStreaming = false ↔ h.calls.filter (·.isLive) = []
  answered : ∀ x s, h.listening? x.call = some s → (answer? x.delivered).isSome = true →
    ((receive x).run n).2.stream name = { n.stream name with live := none }
  unanswered : ∀ x, h.listening? x.call = none ∨ answer? x.delivered = none →
    ((receive x).run n).2.stream name = n.stream name
  notices : n.log.reverse = h.notices.map (.notice name)
  alternate : CallHistory.Alternates h.notices
  openings : h.notices.count .opened = h.calls.length
  started : (n.stream name).started = h.calls.length
  quiet : (n.stream name).Quiet
  answers : ∀ m : Move σ, ((m.perform name).run n).1 = m.expected name n ∧
    (m.expected name n).Tells name n ((m.perform name).run n).2

namespace Mirrors

variable (hm : Mirrors name n h)

include hm

omit [Service σ] in
theorem exists_live_of_current? {s : CallRecord} (hs : h.current? = some s) :
    ∃ l, (n.stream name).live = some l ∧ l.generation = s.generation ∧ l.call = s.call := by
  have hcurrent := hm.current
  rw [hs, Option.map_some, MeasurementStream.current?, Option.map_eq_some_iff] at hcurrent
  obtain ⟨l, hl, heq⟩ := hcurrent
  rw [Prod.mk.injEq] at heq
  exact ⟨l, hl, heq⟩

theorem lifeCycle : LifeCycle name n h := by
  constructor
  case orderly => exact hm.orderly
  case streaming =>
    rw [hm.isStreaming_eq, hm.orderly.filter_isLive]
    constructor
    · intro hsome
      obtain ⟨s, hs⟩ := Option.isSome_iff_exists.mp hsome
      obtain ⟨l, hl⟩ := hm.exists_live_of_current? hs
      exact ⟨s, l, by rw [hs]; rfl, hl⟩
    · rintro ⟨s, l, hs, -⟩
      rw [Option.toList_eq_singleton_iff] at hs
      rw [hs]
      rfl
  case idle =>
    rw [hm.isStreaming_eq, hm.orderly.filter_isLive, Option.isSome_eq_false_iff,
      Option.isNone_iff_eq_none, Option.toList_eq_nil_iff]
  case answered =>
    intro x s hs hx
    rw [← call_delivered] at hs
    obtain ⟨r, hr⟩ := Option.isSome_iff_exists.mp hx
    rw [hm.stream_receive_of_some hs, hr]
    rfl
  case unanswered =>
    intro x hx
    rw [← call_delivered] at hx
    cases hs : h.listening? x.delivered.call with
    | none => exact hm.stream_receive_of_none hs
    | some s =>
      have hr : answer? x.delivered = none := hx.resolve_left (by simp [hs])
      rw [hm.stream_receive_of_some hs, hr]
      rfl
  case notices => exact hm.log
  case alternate => exact hm.orderly.alternates
  case openings => exact h.count_opened_notices
  case started => exact hm.started
  case quiet => exact hm.quiet
  case answers => exact fun m => ⟨(hm.perform m).outcome, (hm.perform m).tells⟩

end Mirrors

/-- Whatever is done with a stream and whatever its service does, its history says what it is. -/
theorem life_cycle_after (name : String) (service : σ) (clock : Clock) (randomness : RandomSource)
    (moves : List (Move σ)) :
    let n := around service clock randomness
    let h := history name moves n .empty
    LifeCycle name (after name moves n) h ∧
      h.calls.length = (outcomes name moves n).countP Outcome.isAccepted := by
  have hm := mirrors_around name service clock randomness
  exact ⟨(hm.after moves).lifeCycle, (hm.length_history moves).trans (Nat.zero_add _)⟩

end SensorRelay.Network.Measuring
