import SensorRelay.Network.Stream
import SensorRelay.Proofs.Client.CallHistory
import SensorRelay.Proofs.Network.Operations

/-!
# Operations on the measurement stream of a network

What starting, pushing, ending and the passing of time do to a network, whatever its service
answers: what is received on the way, and that between two signals no call is opened, answered or
announced.
-/

namespace SensorRelay

open Auth Client Rpc

namespace Client.MeasurementStream

variable {m m' m'' : MeasurementStream} {l : LiveStream}

/-- The live call and its generation. -/
def current? (m : MeasurementStream) : Option (Nat × CallId) :=
  m.live.map fun l => (l.generation, l.call)

/-- No emitter is attached once the request half was closed. -/
def Quiet (m : MeasurementStream) : Prop :=
  ∀ l, m.live = some l → l.sending = false → l.emitter = none

/-- Nothing more can be sent until the next start. -/
def Silent (m : MeasurementStream) : Prop :=
  ∀ l, m.live = some l → l.sending = false

/-- Neither opens a call nor gives one up. -/
structure Keeps (m m' : MeasurementStream) : Prop where
  started : m'.started = m.started
  current : m'.current? = m.current?
  quiet : m.Quiet → m'.Quiet
  silent : m.Silent → m'.Silent

theorem Keeps.refl (m : MeasurementStream) : m.Keeps m := ⟨rfl, rfl, id, id⟩

theorem Keeps.trans (h : m.Keeps m') (h' : m'.Keeps m'') : m.Keeps m'' where
  started := h'.started.trans h.started
  current := h'.current.trans h.current
  quiet := h'.quiet ∘ h.quiet
  silent := h'.silent ∘ h.silent

theorem quiet_of_idle (h : m.live = none) : m.Quiet := by
  intro l hl
  rw [h] at hl
  cases hl

theorem silent_of_idle (h : m.live = none) : m.Silent := by
  intro l hl
  rw [h] at hl
  cases hl

/-- A change of the live call that keeps its number and its generation. -/
theorem Keeps.live (h : m.live = some l) {f : LiveStream → LiveStream}
    (hgeneration : (f l).generation = l.generation) (hcall : (f l).call = l.call)
    (hquiet : (l.sending = false → l.emitter = none) → (f l).sending = false →
      (f l).emitter = none)
    (hsilent : l.sending = false → (f l).sending = false) :
    m.Keeps { m with live := some (f l) } where
  started := rfl
  current := by rw [current?, current?, h, Option.map_some, Option.map_some, hgeneration, hcall]
  quiet hm := by
    rintro _ ⟨⟩
    exact hquiet (hm l h)
  silent hm := by
    rintro _ ⟨⟩
    exact hsilent (hm l h)

theorem keeps_push (m : MeasurementStream) (value : Double) (madeAt : Instant) :
    m.Keeps (m.push value madeAt).2 := by
  unfold push
  cases h : m.live with
  | none => exact .refl m
  | some l =>
    dsimp only
    split_ifs
    · exact .refl m
    · exact .refl m
    · exact .live h (f := fun l => { l with outgoing := l.outgoing ++ [_] }) rfl rfl id id

theorem keeps_attachEmitter (m : MeasurementStream) (e : Emitter) :
    m.Keeps (m.attachEmitter e).2 := by
  unfold attachEmitter
  cases h : m.live with
  | none => exact .refl m
  | some l =>
    dsimp only
    split_ifs with hsending
    · refine .live h (f := fun l => { l with emitter := some e }) rfl rfl (fun _ hs => ?_) id
      cases hsending.symm.trans hs
    · exact .refl m

theorem keeps_finish (m : MeasurementStream) : m.Keeps m.finish.2 := by
  unfold finish
  cases h : m.live with
  | none => exact .refl m
  | some l =>
    exact .live h (f := fun l => { l with sending := false, outgoing := _, emitter := none })
      rfl rfl (fun _ _ => rfl) fun _ => rfl

theorem silent_finish (m : MeasurementStream) : m.finish.2.Silent := by
  unfold finish
  cases h : m.live with
  | none => exact silent_of_idle h
  | some l =>
    rintro _ ⟨⟩
    rfl

theorem keeps_takeOutgoing (m : MeasurementStream) : m.Keeps m.takeOutgoing.2 := by
  unfold takeOutgoing
  cases h : m.live with
  | none => exact .refl m
  | some l => exact .live h (f := fun l => { l with outgoing := [] }) rfl rfl id id

theorem keeps_tick (m : MeasurementStream) (madeAt : Instant) : m.Keeps (m.tick madeAt) := by
  unfold tick
  cases h : m.live with
  | none => exact .refl m
  | some l =>
    dsimp only
    cases he : l.emitter with
    | none => exact .refl m
    | some e =>
      refine Keeps.trans ?_ (keeps_push _ _ madeAt)
      refine .live h (f := fun l => { l with emitter := some _ }) rfl rfl (fun hquiet hs => ?_) id
      cases he.symm.trans (hquiet hs)

end Client.MeasurementStream

namespace Network

variable {σ : Type} {name : String} {n n' n'' : Network σ}

@[simp]
theorem stream_setStream (name : String) (m : MeasurementStream) (n : Network σ) :
    (n.setStream name m).stream name = m := by
  simp [stream, setStream]

theorem stream_setStream_of_ne {key : String} (h : key ≠ name) (m : MeasurementStream)
    (n : Network σ) : (n.setStream name m).stream key = n.stream key := by
  rw [stream, setStream, lookup_bindName_of_ne h]
  rfl

/-- No other stream was ever mentioned. -/
def Alone (name : String) (n : Network σ) : Prop :=
  ∀ p ∈ n.streams, p.1 = name

theorem Alone.setStream (h : n.Alone name) (m : MeasurementStream) :
    (n.setStream name m).Alone name := by
  intro p hp
  rcases List.mem_cons.mp hp with rfl | hp
  · rfl
  · exact h p (List.mem_of_mem_filter hp)

/-- An answer makes the stream idle, unless a newer call is live. -/
theorem stream_hand {g : Nat} (hg : ∀ l, (n.stream name).live = some l → l.generation = g)
    (x : Signal) :
    (hand (.stream name g) x n).stream name =
      if (answer? x).isNone then n.stream name else { n.stream name with live := none } := by
  cases x with
  | answered call r =>
    have hanswered : ((n.stream name).answered g r).2 = { n.stream name with live := none } := by
      rw [MeasurementStream.answered]
      cases hl : (n.stream name).live with
      | none => simp [← hl]
      | some l => simp [hg l hl]
    exact (stream_setStream name _ n).trans hanswered
  | _ => rfl

theorem log_hand_stream (name : String) (g : Nat) (x : Signal) (n : Network σ) :
    (hand (.stream name g) x n).log =
      ((answer? x).map fun r => .notice name (MeasurementStream.noticeOf r)).toList ++ n.log := by
  cases x <;> rfl

theorem calls_hand_stream (name : String) (g : Nat) (x : Signal) (n : Network σ) :
    (hand (.stream name g) x n).owners = n.owners ∧
      (hand (.stream name g) x n).nextCall = n.nextCall := by
  cases x <;> exact ⟨rfl, rfl⟩

theorem Alone.hand (h : n.Alone name) (g : Nat) (x : Signal) :
    (hand (.stream name g) x n).Alone name := by
  cases x with
  | answered call r => exact h.setStream _
  | _ => exact h

/-- No call of the stream is opened, answered or announced. -/
structure Settled (name : String) (n n' : Network σ) : Prop where
  stream : (n.stream name).Keeps (n'.stream name)
  owners : n'.owners = n.owners
  nextCall : n.nextCall ≤ n'.nextCall
  log : n'.log = n.log
  alone : n.Alone name → n'.Alone name

namespace Settled

theorem of_streams (hstreams : n'.streams = n.streams) (howners : n'.owners = n.owners)
    (hnext : n.nextCall ≤ n'.nextCall) (hlog : n'.log = n.log) : Settled name n n' where
  stream := by
    rw [Network.stream, Network.stream, hstreams]
    exact .refl _
  owners := howners
  nextCall := hnext
  log := hlog
  alone h := by rwa [Alone, hstreams]

theorem setStream {m : MeasurementStream} (h : (n.stream name).Keeps m) :
    Settled name n (n.setStream name m) where
  stream := by rwa [stream_setStream]
  owners := rfl
  nextCall := Nat.le_refl _
  log := rfl
  alone ha := ha.setStream m

theorem trans (h : Settled name n n') (h' : Settled name n' n'') : Settled name n n'' where
  stream := h.stream.trans h'.stream
  owners := h'.owners.trans h.owners
  nextCall := h.nextCall.trans h'.nextCall
  log := h'.log.trans h.log
  alone := h'.alone ∘ h.alone

end Settled

/-- The same to anybody who asks: only the numbers of later calls may have changed. -/
structure Unmoved (n n' : Network σ) : Prop where
  service : n'.service = n.service
  clock : n'.clock = n.clock
  randomness : n'.randomness = n.randomness
  elapsed : n'.elapsed = n.elapsed
  owners : n'.owners = n.owners
  stream : ∀ key, n'.stream key = n.stream key
  sessions : n'.sessions = n.sessions
  manualCalls : n'.manualCalls = n.manualCalls
  log : n'.log = n.log

/-- Binding a stream to what it is bound to changes nothing. -/
theorem unmoved_setStream (name : String) (n : Network σ) (k : CallId) :
    Unmoved n ({ n with nextCall := k }.setStream name (n.stream name)) where
  service := rfl
  clock := rfl
  randomness := rfl
  elapsed := rfl
  owners := rfl
  stream key := by
    by_cases hkey : key = name
    · rw [hkey, stream_setStream]
    · exact stream_setStream_of_ne hkey _ _
  sessions := rfl
  manualCalls := rfl
  log := rfl

theorem settled_setStream_self (name : String) {k : CallId} (hk : n.nextCall ≤ k) :
    Settled name n ({ n with nextCall := k }.setStream name (n.stream name)) := by
  have hnext : Settled name n { n with nextCall := k } := .of_streams rfl rfl hk rfl
  exact hnext.trans (.setStream (.refl _))

variable [Service σ]

/-- How one network becomes another while some signals are received, in this order. -/
inductive Unfolds (name : String) : Network σ → List Signal → Network σ → Prop
  | settled {n n' : Network σ} : Settled name n n' → Unfolds name n [] n'
  | received (x : Signal) (n : Network σ) : Unfolds name n [x] ((receive x).run n).2
  | trans {n n' n'' : Network σ} {xs ys : List Signal} :
    Unfolds name n xs n' → Unfolds name n' ys n'' → Unfolds name n (xs ++ ys) n''

theorem unfolds_receiveAll (name : String) (xs : List Signal) (n : Network σ) :
    Unfolds name n xs ((receiveAll xs).run n).2 := by
  induction xs generalizing n with
  | nil => exact .settled (.of_streams rfl rfl (Nat.le_refl _) rfl)
  | cons x xs ih => exact (Unfolds.received x n).trans (ih _)

theorem Settled.unfolds {xs : List Signal} (h : Settled name n n') (h' : Unfolds name n' xs n'') :
    Unfolds name n xs n'' :=
  (Unfolds.settled h).trans h'

/-- What the service says to one upload. -/
def repliesTo (call : CallId) (u : Upload MeasurementRequest) (n : Network σ) : List Signal :=
  if n.isLive call then
    ((Service.uploadMeasurement call (u.map MeasurementRequest.transmitted)
      (occasion.run n).1).run n.service).1
  else []

theorem unfolds_sendMeasurement (name : String) (call : CallId) (u : Upload MeasurementRequest)
    (n : Network σ) : Unfolds name n (repliesTo call u n) ((sendMeasurement call u).run n).2 := by
  simp only [sendMeasurement, repliesTo, StateT.run_bind, StateT.run_get, pure_bind]
  cases n.isLive call with
  | false => exact .settled (.of_streams rfl rfl (Nat.le_refl _) rfl)
  | true =>
    rw [if_pos rfl, if_pos rfl]
    let answer := (Service.uploadMeasurement call (u.map MeasurementRequest.transmitted)
      (occasion.run n).1).run n.service
    have hasked : Settled name n { (occasion.run n).2 with service := answer.2 } :=
      .of_streams rfl rfl (Nat.le_refl _) rfl
    exact hasked.unfolds (unfolds_receiveAll name answer.1 _)

def repliesToAll (call : CallId) : List (Upload MeasurementRequest) → Network σ → List Signal
  | [], _ => []
  | u :: us, n => repliesTo call u n ++ repliesToAll call us ((sendMeasurement call u).run n).2

theorem unfolds_sendAll (name : String) (call : CallId) (us : List (Upload MeasurementRequest))
    (n : Network σ) :
    Unfolds name n (repliesToAll call us n) ((us.forM (sendMeasurement call)).run n).2 := by
  induction us generalizing n with
  | nil => exact .settled (.of_streams rfl rfl (Nat.le_refl _) rfl)
  | cons u us ih => exact (unfolds_sendMeasurement name call u n).trans (ih _)

/-- What the service says to all that a stream has queued. -/
def flushReplies (name : String) (n : Network σ) : List Signal :=
  match (n.stream name).live with
  | none => []
  | some l =>
    let (outgoing, m) := (n.stream name).takeOutgoing
    repliesToAll l.call outgoing (n.setStream name m)

theorem unfolds_flush (name : String) (n : Network σ) :
    Unfolds name n (flushReplies name n) ((flush name).run n).2 := by
  simp only [flush, flushReplies, StateT.run_bind, StateT.run_get, pure_bind]
  cases (n.stream name).live with
  | none => exact .settled (.of_streams rfl rfl (Nat.le_refl _) rfl)
  | some l =>
    exact Settled.unfolds (.setStream (MeasurementStream.keeps_takeOutgoing _))
      (unfolds_sendAll name l.call _ _)

/-- Whatever is done to a stream before it sends what it has queued. -/
theorem unfolds_setStream_flush {m : MeasurementStream} (h : (n.stream name).Keeps m) :
    Unfolds name n (flushReplies name (n.setStream name m))
      ((flush name).run (n.setStream name m)).2 :=
  (Settled.setStream h).unfolds (unfolds_flush name _)

theorem run_finish (name : String) (n : Network σ) :
    (finish name).run n =
      let (r, m) := (n.stream name).finish
      (r, ((flush name).run (n.setStream name m)).2) := rfl

/-- Ending a stream that is idle. -/
theorem run_finish_of_idle (h : (n.stream name).live = none) :
    (finish name).run n = (.noStream, n.setStream name (n.stream name)) := by
  have hflush (n' : Network σ) (h' : (n'.stream name).live = none) :
      ((flush name).run n').2 = n' := by
    simp only [flush, StateT.run_bind, StateT.run_get, pure_bind, h']
    rfl
  have hfinish : (n.stream name).finish = (.noStream, n.stream name) := by
    rw [MeasurementStream.finish, h]
  rw [run_finish, hfinish]
  exact congrArg _ (hflush _ (by rw [stream_setStream, h]))

/-- The network once a call was opened for an idle stream. -/
def withCall (name : String) (service : σ) (n : Network σ) : Network σ :=
  (({ n with
      service := service
      nextCall := n.nextCall + 1
      owners := (n.nextCall, .stream name ((n.stream name).started + 1)) :: n.owners }).setStream
    name ((n.stream name).begin n.nextCall)).report (.notice name .opened)

omit [Service σ] in
theorem run_begin (name : String) (token : Token) (n : Network σ) :
    (begin name token).run n =
      let (r, m) := (n.stream name).start n.nextCall token
      let n' := { n with nextCall := n.nextCall + 1 }.setStream name m
      (r, if r = .ok .started then n'.report (.notice name .opened) else n') := by
  have hstream : ({ n with nextCall := n.nextCall + 1 } : Network σ).stream name = n.stream name :=
    rfl
  simp only [begin, onStream, modify, StateT.run_bind, StateT.run_get, StateT.run_modifyGet,
    pure_bind, hstream]
  generalize (n.stream name).start n.nextCall token = x
  obtain ⟨r, m⟩ := x
  cases r with
  | error e => rfl
  | ok outcome => cases outcome <;> rfl

theorem run_openStream {token : Token} {header : HeaderValue} {l : LiveStream}
    (hlive : (n.stream name).live = some l) (htoken : token.attach = .ok header) :
    ((openStream name token).run n).2 =
      let x := (Service.openMeasurements l.call (some header)).run n.service
      ((receiveAll x.1).run { n with
        service := x.2
        owners := (l.call, .stream name l.generation) :: n.owners }).2 := by
  simp only [openStream, StateT.run_bind, StateT.run_get, pure_bind, hlive, htoken]
  rfl

theorem start_of_streaming (token : Token) (h : (n.stream name).isStreaming = true) :
    (start name token).run n = (.ok .alreadyStreaming,
      { n with nextCall := n.nextCall + 1 }.setStream name (n.stream name)) := by
  have hstart : (n.stream name).start n.nextCall token = (.ok .alreadyStreaming, n.stream name) :=
    if_pos h
  simp only [start, StateT.run_bind, run_begin, hstart]
  rfl

theorem start_of_unattachable {token : Token} {e : Error}
    (h : (n.stream name).isStreaming = false) (htoken : token.attach = .error e) :
    (start name token).run n = (.error e,
      { n with nextCall := n.nextCall + 1 }.setStream name (n.stream name)) := by
  have hstart : (n.stream name).start n.nextCall token = (.error e, n.stream name) := by
    rw [MeasurementStream.start, h, htoken]
    rfl
  simp only [start, StateT.run_bind, run_begin, hstart]
  rfl

theorem start_of_idle {token : Token} {header : HeaderValue}
    (h : (n.stream name).isStreaming = false) (htoken : token.attach = .ok header) :
    (start name token).run n =
      let x := (Service.openMeasurements n.nextCall (some header)).run n.service
      (.ok .started, ((receiveAll x.1).run (n.withCall name x.2)).2) := by
  have hstart : (n.stream name).start n.nextCall token =
      (.ok .started, (n.stream name).begin n.nextCall) := by
    rw [MeasurementStream.start, h, htoken]
    rfl
  simp only [start, StateT.run_bind, run_begin, hstart, if_true]
  refine congrArg (Prod.mk _) (run_openStream (l := ⟨_, n.nextCall, true, [], none⟩) ?_ htoken)
  exact congrArg MeasurementStream.live (stream_setStream name _ _)

omit [Service σ] in
/-- Only a stream that was mentioned has an emitter. -/
theorem Alone.nextDue (h : n.Alone name) {limit due : Nat} {key : String}
    (hdue : n.nextDue limit = some (due, key)) : key = name := by
  have hbest : ∀ b, n.nextDue limit = some b → b.2 = name := by
    refine List.foldlRecOn (motive := fun best : Option (Nat × String) =>
      ∀ b, best = some b → b.2 = name) _ _ (fun b hb => nomatch hb) fun best hbest p hp => ?_
    have hname : p.1 = name := h p hp
    obtain ⟨key, m⟩ := p
    dsimp only at hname ⊢
    split
    · split_ifs
      · rintro _ ⟨⟩
        exact hname
      · nofun
    · split_ifs
      · rintro _ ⟨⟩
        exact hname
      · exact hbest
    · exact hbest
  exact hbest _ hdue

/-- The network once its emitter has pushed the value that was due. -/
def ticked (due : Nat) (name : String) (n : Network σ) : Network σ :=
  let (moment, clock) := n.clock.read
  ({ n with elapsed := due, clock := clock }).setStream name ((n.stream name).tick moment)

/-- What the service says to what emitters push. -/
def emitterReplies (limit : Nat) : Nat → Network σ → List Signal
  | 0, _ => []
  | fuel + 1, n =>
    match n.nextDue limit with
    | none => []
    | some (due, name) =>
      let n' := n.ticked due name
      flushReplies name n' ++ emitterReplies limit fuel ((flush name).run n').2

theorem run_runEmitters_succ (limit fuel : Nat) (n : Network σ) :
    ((runEmitters limit (fuel + 1)).run n).2 =
      match n.nextDue limit with
      | none => n
      | some (due, name) =>
        ((runEmitters limit fuel).run ((flush name).run (n.ticked due name)).2).2 := by
  simp only [runEmitters, StateT.run_bind, StateT.run_get, pure_bind]
  cases n.nextDue limit with
  | none => rfl
  | some p => rfl

omit [Service σ] in
theorem settled_elapsed (name : String) (time : Nat) (n : Network σ) :
    Settled name n { n with elapsed := time } :=
  .of_streams rfl rfl (Nat.le_refl _) rfl

omit [Service σ] in
theorem settled_ticked (due : Nat) (name : String) (n : Network σ) :
    Settled name n (n.ticked due name) := by
  have hread : Settled name n { n with elapsed := due, clock := n.clock.read.2 } :=
    .of_streams rfl rfl (Nat.le_refl _) rfl
  exact hread.trans (.setStream (MeasurementStream.keeps_tick _ _))

end Network
end SensorRelay
