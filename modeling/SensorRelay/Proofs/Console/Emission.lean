import SensorRelay.Console.Sensor
import SensorRelay.Launch
import SensorRelay.Proofs.Config.Load
import SensorRelay.Proofs.Console.Grammar
import SensorRelay.Proofs.Network.Tap
import SensorRelay.Scripted

/-!
# The periods of emitters

An emitter that a sensor's console attaches has the period of its line, or else that of the command
line or of the settings. A line and settings never have a period of zero. A command line can have
one, and the emitter that is then attached never pushes a value.
-/

namespace SensorRelay

open Auth Client Rpc

namespace Client.MeasurementStream

variable {m : MeasurementStream} {periods : List Nat} {elapsed : Nat}

/-- An emitter belongs to a call that still sends, has one of some periods, and pushes next before
one more of them is over. -/
def Paced (m : MeasurementStream) (periods : List Nat) (elapsed : Nat) : Prop :=
  ∀ l e, m.live = some l → l.emitter = some e →
    l.sending = true ∧ e.period ∈ periods ∧ e.due ≤ elapsed + e.period

theorem paced_of_idle (h : m.live = none) : m.Paced periods elapsed := by
  intro l e hl
  rw [h] at hl
  cases hl

namespace Paced

variable (h : m.Paced periods elapsed)

include h

theorem mono {more : List Nat} (hsub : periods ⊆ more) : m.Paced more elapsed := by
  intro l e hl he
  obtain ⟨hsending, hperiod, hdue⟩ := h l e hl he
  exact ⟨hsending, hsub hperiod, hdue⟩

theorem later {time : Nat} (hle : elapsed ≤ time) : m.Paced periods time := by
  intro l e hl he
  obtain ⟨hsending, hperiod, hdue⟩ := h l e hl he
  exact ⟨hsending, hperiod, by omega⟩

/-- Neither the emitter nor the request half of the live call changes. -/
theorem live {l : LiveStream} (hl : m.live = some l) {l' : LiveStream}
    (hsending : l'.sending = l.sending) (hemitter : l'.emitter = l.emitter) :
    ({ m with live := some l' } : MeasurementStream).Paced periods elapsed := by
  rintro _ e ⟨⟩ he
  rw [hemitter] at he
  rw [hsending]
  exact h l e hl he

theorem push (value : Double) (madeAt : Instant) :
    (m.push value madeAt).2.Paced periods elapsed := by
  unfold MeasurementStream.push
  cases hl : m.live with
  | none => exact h
  | some l =>
    dsimp only
    split_ifs
    · exact h
    · exact h
    · exact h.live hl rfl rfl

theorem finish : m.finish.2.Paced periods elapsed := by
  unfold MeasurementStream.finish
  cases hl : m.live with
  | none => exact h
  | some l =>
    rintro _ e ⟨⟩ he
    cases he

theorem answered (generation : Nat) (r : Except Status Unit) :
    (m.answered generation r).2.Paced periods elapsed := by
  unfold MeasurementStream.answered
  dsimp only
  split_ifs
  · exact paced_of_idle rfl
  · exact h

theorem start (call : CallId) (token : Token) : (m.start call token).2.Paced periods elapsed := by
  unfold MeasurementStream.start
  split_ifs
  · exact h
  · cases token.attach with
    | error e => exact h
    | ok header =>
      rintro _ e ⟨⟩ he
      cases he

theorem attachEmitter {e : Emitter} (hperiod : e.period ∈ periods)
    (hdue : e.due ≤ elapsed + e.period) : (m.attachEmitter e).2.Paced periods elapsed := by
  unfold MeasurementStream.attachEmitter
  cases hl : m.live with
  | none => exact h
  | some l =>
    dsimp only
    split_ifs with hsending
    · rintro _ e' ⟨⟩ ⟨⟩
      exact ⟨hsending, hperiod, hdue⟩
    · exact h

theorem tick {due : Nat} (hdue : m.due? = some due) (madeAt : Instant) :
    (m.tick madeAt).Paced periods due := by
  unfold MeasurementStream.tick
  cases hl : m.live with
  | none => simp [due?, hl] at hdue
  | some l =>
    dsimp only
    cases he : l.emitter with
    | none => simp [due?, hl, he] at hdue
    | some e =>
      have hnow : e.due = due := by
        simp only [due?, hl, he, Option.bind_some] at hdue
        split_ifs at hdue
        exact Option.some.inj hdue
      obtain ⟨hsending, hperiod, -⟩ := h l e hl he
      refine Paced.push ?_ _ madeAt
      rintro _ e' ⟨⟩ ⟨⟩
      exact ⟨hsending, hperiod, by rw [hnow]⟩

end Paced

theorem attachEmitter_of_sending {l : LiveStream} (hl : m.live = some l) (hsending : l.sending = true)
    (e : Emitter) :
    m.attachEmitter e = (.ok (), { m with live := some { l with emitter := some e } }) := by
  rw [attachEmitter, hl]
  exact if_pos hsending

/-- The stream is as it was, unless its call is over. -/
def Waits (m m' : MeasurementStream) : Prop :=
  m' = m ∨ m'.live = none

theorem Waits.trans {m' m'' : MeasurementStream} (h : m.Waits m') (h' : m'.Waits m'') :
    m.Waits m'' := by
  rcases h' with rfl | hidle
  · exact h
  · exact .inr hidle

theorem waits_answered (m : MeasurementStream) (generation : Nat) (r : Except Status Unit) :
    m.Waits (m.answered generation r).2 := by
  unfold answered
  dsimp only
  split_ifs
  · exact .inr rfl
  · exact .inl rfl

end Client.MeasurementStream

theorem Auth.Token.error_of_attach {token : Token} {e : Error} (h : token.attach = .error e) :
    e = unfitError := by
  unfold attach at h
  split at h
  · cases h
  · exact (Except.error.inj h).symm

namespace Network

variable {σ : Type} {name : String} {n : Network σ} {periods : List Nat} {time : Nat}

/-- A network with one stream, whose emitters have some periods, at some time. -/
structure Paced (name : String) (periods : List Nat) (time : Nat) (n : Network σ) : Prop where
  single : n.Single name
  owned : ∀ {k o}, n.owners.lookup k = some o → ∃ g, o = .stream name g
  elapsed : n.elapsed = time
  stream : (n.stream name).Paced periods time

theorem paced_around (name : String) (service : σ) (clock : Clock) (randomness : RandomSource) :
    (around service clock randomness).Paced name [] 0 where
  single := .inl rfl
  owned ho := nomatch ho
  elapsed := rfl
  stream := MeasurementStream.paced_of_idle rfl

/-- A stream that is begun has a call that sends, and no emitter yet. -/
theorem begin_cases (name : String) (token : Token) (n : Network σ) :
    let x := (begin name token).run n
    x.1 = .error Token.unfitError ∨ x.1 = .ok .alreadyStreaming ∨
      x.1 = .ok .started ∧ ∃ l, (x.2.stream name).live = some l ∧ l.sending = true := by
  intro x
  have hx : x = _ := run_begin name token n
  cases hs : (n.stream name).isStreaming with
  | true =>
    have hstart : (n.stream name).start n.nextCall token = (.ok .alreadyStreaming, n.stream name) :=
      if_pos hs
    rw [hstart] at hx
    exact .inr (.inl (congrArg Prod.fst hx))
  | false =>
    cases htoken : token.attach with
    | error e =>
      have hstart : (n.stream name).start n.nextCall token = (.error e, n.stream name) := by
        rw [MeasurementStream.start, hs, htoken]
        rfl
      rw [hstart, Token.error_of_attach htoken] at hx
      exact .inl (congrArg Prod.fst hx)
    | ok header =>
      have hstart : (n.stream name).start n.nextCall token =
          (.ok .started, (n.stream name).begin n.nextCall) := by
        rw [MeasurementStream.start, hs, htoken]
        rfl
      rw [hstart] at hx
      refine .inr (.inr ⟨congrArg Prod.fst hx,
        ⟨(n.stream name).started + 1, n.nextCall, true, [], none⟩, ?_, rfl⟩)
      rw [hx]
      exact congrArg MeasurementStream.live (stream_setStream name _ _)

namespace Paced

variable (h : n.Paced name periods time)

include h

theorem mono {more : List Nat} (hsub : periods ⊆ more) : n.Paced name more time :=
  ⟨h.single, h.owned, h.elapsed, h.stream.mono hsub⟩

/-- Nothing else matters. -/
theorem same {n' : Network σ} (hstreams : n'.streams = n.streams) (howners : n'.owners = n.owners)
    (helapsed : n'.elapsed = n.elapsed) : n'.Paced name periods time := by
  have hstream : n'.stream name = n.stream name := by rw [Network.stream, Network.stream, hstreams]
  refine ⟨?_, by rw [howners]; exact h.owned, helapsed.trans h.elapsed, ?_⟩
  · rw [Single, hstreams, hstream]
    exact h.single
  · rw [hstream]
    exact h.stream

theorem setStream {m : MeasurementStream} (hm : m.Paced periods time) :
    (n.setStream name m).Paced name periods time where
  single := (single_of_streams (h.single.streams_setStream m)).2
  owned := h.owned
  elapsed := h.elapsed
  stream := by
    rw [stream_setStream]
    exact hm

theorem hand (g : Nat) (x : Signal) : (hand (.stream name g) x n).Paced name periods time := by
  cases x with
  | answered call r => exact (h.setStream (h.stream.answered g r)).same rfl rfl rfl
  | _ => exact h

theorem begin (token : Token) : ((begin name token).run n).2.Paced name periods time := by
  have hnumbered : ({ n with nextCall := n.nextCall + 1 } : Network σ).Paced name periods time :=
    h.same rfl rfl rfl
  have hbegun := hnumbered.setStream (h.stream.start n.nextCall token)
  rw [run_begin]
  dsimp only
  split_ifs
  · exact hbegun.same rfl rfl rfl
  · exact hbegun

theorem answer (service : σ) : ({ n with service := service } : Network σ).Paced name periods time :=
  h.same rfl rfl rfl

/-- One more call of the stream. -/
theorem own (k : CallId) (g : Nat) :
    ({ n with owners := (k, .stream name g) :: n.owners } : Network σ).Paced name periods time := by
  refine ⟨h.single, fun {j o} hj => ?_, h.elapsed, h.stream⟩
  by_cases hnew : j = k
  · simp only [hnew, List.lookup_cons_self] at hj
    exact ⟨g, (Option.some.inj hj).symm⟩
  · have hne : (j == k) = false := by simpa using hnew
    rw [List.lookup_cons, hne] at hj
    exact h.owned hj

variable [Service σ]

theorem receive (x : Signal) : ((receive x).run n).2.Paced name periods time := by
  cases ho : n.owners.lookup x.delivered.call with
  | none =>
    rw [receive_of_nobody ho]
    exact h
  | some o =>
    obtain ⟨g, rfl⟩ := h.owned ho
    have hhanded := h.hand g x.delivered
    rw [run_receive_of_owner ho]
    split_ifs
    · refine ⟨hhanded.single, fun {k o'} hk => ?_, hhanded.elapsed, hhanded.stream⟩
      rw [lookup_filter_ne] at hk
      split_ifs at hk
      exact h.owned hk
    · exact hhanded

theorem receiveAll (xs : List Signal) : ((receiveAll xs).run n).2.Paced name periods time := by
  induction xs generalizing n with
  | nil => exact h
  | cons x xs ih => exact ih (h.receive x)

/-- What the service does, whether it is asked or not. -/
theorem serve (f : StateM σ (List Signal)) :
    ((ask f >>= Network.receiveAll).run n).2.Paced name periods time :=
  (h.answer _).receiveAll _

theorem send (k : CallId) (u : Upload MeasurementRequest) :
    ((sendMeasurement k u).run n).2.Paced name periods time := by
  cases hk : n.isLive k with
  | false =>
    rw [run_sendMeasurement_of_not_live u hk]
    exact h
  | true =>
    rw [(run_sendMeasurement_of_live u hk).1]
    exact (h.same (by rfl) (by rfl) (by rfl)).receiveAll _

theorem sendAll (k : CallId) (us : List (Upload MeasurementRequest)) :
    ((us.forM (sendMeasurement k)).run n).2.Paced name periods time := by
  induction us generalizing n with
  | nil => exact h
  | cons u us ih => exact ih (h.send k u)

theorem flush : ((flush name).run n).2.Paced name periods time := by
  cases hlive : (n.stream name).live with
  | none =>
    rw [run_flush_of_idle hlive]
    exact h
  | some l =>
    rw [(run_flush_of_live hlive).1]
    refine Paced.sendAll (h.setStream ?_) _ _
    exact h.stream.live hlive rfl rfl

theorem finish : ((finish name).run n).2.Paced name periods time :=
  (h.setStream h.stream.finish).flush

theorem openStream (token : Token) : ((openStream name token).run n).2.Paced name periods time := by
  simp only [Network.openStream, StateT.run_bind, StateT.run_get, pure_bind]
  cases (n.stream name).live with
  | none => exact h
  | some l =>
    cases token.attach with
    | error e => exact h
    | ok header => exact (h.own l.call l.generation).serve _

theorem waits_receive (x : Signal) :
    (n.stream name).Waits (((Network.receive x).run n).2.stream name) := by
  cases ho : n.owners.lookup x.delivered.call with
  | none =>
    rw [receive_of_nobody ho]
    exact .inl rfl
  | some o =>
    obtain ⟨g, rfl⟩ := h.owned ho
    have hhand : (n.stream name).Waits
        ((Network.hand (.stream name g) x.delivered n).stream name) := by
      cases x.delivered with
      | answered call r =>
        exact (stream_setStream name _ n).symm ▸ MeasurementStream.waits_answered _ g r
      | _ => exact .inl rfl
    rw [run_receive_of_owner ho]
    split_ifs <;> exact hhand

theorem waits_receiveAll (xs : List Signal) :
    (n.stream name).Waits (((Network.receiveAll xs).run n).2.stream name) := by
  induction xs generalizing n with
  | nil => exact .inl rfl
  | cons x xs ih => exact (h.waits_receive x).trans (ih (h.receive x))

theorem waits_openStream (token : Token) :
    (n.stream name).Waits (((Network.openStream name token).run n).2.stream name) := by
  simp only [Network.openStream, StateT.run_bind, StateT.run_get, pure_bind]
  cases (n.stream name).live with
  | none => exact .inl rfl
  | some l =>
    cases token.attach with
    | error e => exact .inl rfl
    | ok header => exact ((h.own l.call l.generation).answer _).waits_receiveAll _

/-- Whenever an emitter pushes, it is the time at which it was due. -/
theorem runEmitters (limit fuel : Nat) (hlimit : time ≤ limit) :
    ∃ now, now ≤ limit ∧ ((runEmitters limit fuel).run n).2.Paced name periods now := by
  induction fuel generalizing n time with
  | zero => exact ⟨time, hlimit, h⟩
  | succ fuel ih =>
    rw [run_runEmitters_succ, h.single.nextDue_eq]
    cases hdue : (n.stream name).due?.filter (· ≤ limit) with
    | none => exact ⟨time, hlimit, h⟩
    | some due =>
      obtain ⟨hdue, hle⟩ := Option.filter_eq_some_iff.mp hdue
      have hticked : (n.ticked due name).Paced name periods due := by
        refine ⟨(single_of_streams (h.single.streams_setStream _)).2, h.owned, rfl, ?_⟩
        rw [ticked, stream_setStream]
        exact h.stream.tick hdue _
      exact ih hticked.flush (of_decide_eq_true hle)

theorem wait (ms : Nat) : ((wait ms).run n).2.Paced name periods (time + ms) := by
  obtain ⟨now, hnow, hrun⟩ := h.runEmitters (n.elapsed + ms) (n.ticksUntil (n.elapsed + ms))
    (by rw [h.elapsed]; omega)
  rw [h.elapsed] at hnow
  exact ⟨hrun.single, hrun.owned, congrArg (· + ms) h.elapsed, hrun.stream.later hnow⟩

/-- Where no emitter is ever due, only time passes. -/
theorem wait_of_never_due (hnever : (n.stream name).due? = none) (ms : Nat) :
    ((Network.wait ms).run n).2 = { n with elapsed := n.elapsed + ms } := by
  have hnone (limit : Nat) : n.nextDue limit = none := by
    rw [h.single.nextDue_eq, hnever]
    rfl
  have hrun (limit fuel : Nat) : ((Network.runEmitters limit fuel).run n).2 = n := by
    cases fuel with
    | zero => rfl
    | succ fuel => rw [run_runEmitters_succ, hnone]
  exact congrArg (fun n' : Network σ => { n' with elapsed := n.elapsed + ms }) (hrun _ _)

end Paced
end Network

namespace Console.SensorConsole

variable {σ : Type}

/-- What happens at a sensor's console: a line is typed, its service does something on its own, or
some milliseconds pass. -/
inductive Turn (σ : Type)
  | typed (line : String)
  | served (f : StateM σ (List Signal))
  | waited (ms : Nat)

variable [Service σ]

/-- Attaches an emitter of random values and notes its period. -/
def emitRandomNoted (period : Nat) : SensorConsoleM σ (String × List Nat) := do
  let answer ← emitRandom period
  return (answer, [period])

/-- Starts a stream and notes the period of its emitter. -/
def startStreamNoted (period : Option Nat) (token : Option String) :
    SensorConsoleM σ (String × List Nat) := do
  let c ← get
  match (token.map Token.mk).or (c.identity.map (·.token)) with
  | none => return (say "Register first or pass a token", [])
  | some token =>
    match ← onNetwork (Network.begin streamName token) with
    | .error e => return (say e.message, [])
    | .ok .alreadyStreaming => return (say "Stream is already opened", [])
    | .ok .started =>
      let answer ← emitRandomNoted (period.getD c.defaultPeriod)
      onNetwork (Network.openStream streamName token)
      return answer

/-- Answers a line and notes the periods of the emitters that it attaches. -/
def answerLineNoted : SensorLine → SensorConsoleM σ (List String × List Nat)
  | .startStream period token => do
    let (answer, periods) ← startStreamNoted period token
    return ([answer], periods)
  | l => return (← answerLine l, [])

def enterNoted (line : String) : SensorConsoleM σ (List String × List Nat) := do
  if !(← get).running then return ([], [])
  let (answers, periods) ← match SensorLine.parse line with
    | .ok l => answerLineNoted l
    | .error e => pure ([e.message], [])
  return (answers.flatMap (·.splitOn "\n") ++ (← printReports), periods)

theorem startStreamNoted_value (period : Option Nat) (token : Option String) :
    Prod.fst <$> startStreamNoted (σ := σ) period token = startStream period token := by
  unfold startStreamNoted startStream
  rw [map_bind]
  congr 1
  funext c
  cases (token.map Token.mk).or (c.identity.map (·.token)) with
  | none => rfl
  | some t =>
    rw [map_bind]
    congr 1
    funext outcome
    match outcome with
    | .error e => rfl
    | .ok .alreadyStreaming => rfl
    | .ok .started => simp [emitRandomNoted]

theorem answerLineNoted_value (l : SensorLine) :
    Prod.fst <$> answerLineNoted (σ := σ) l = answerLine l := by
  cases l with
  | startStream period token =>
    simp only [answerLineNoted, answerLine, ← startStreamNoted_value, map_bind, map_pure,
      bind_map_left]
  | _ => simp [answerLineNoted]

theorem enterNoted_value (line : String) :
    Prod.fst <$> enterNoted (σ := σ) line = enter line := by
  unfold enterNoted enter
  rw [map_bind]
  congr 1
  funext c
  cases c.running with
  | false => rfl
  | true =>
    cases SensorLine.parse line with
    | error e => simp
    | ok l => simp [← answerLineNoted_value l]

/-- The console after one more turn. -/
def take (c : SensorConsole σ) : Turn σ → SensorConsole σ
  | .typed line => ((enter line).run c).2
  | .served f => ((onNetwork (Network.ask f >>= Network.receiveAll)).run c).2
  | .waited ms => ((onNetwork (Network.wait ms)).run c).2

def after (c : SensorConsole σ) (turns : List (Turn σ)) : SensorConsole σ :=
  turns.foldl take c

/-- The periods of the emitters that a turn attaches. -/
def noted (c : SensorConsole σ) : Turn σ → List Nat
  | .typed line => ((enterNoted line).run c).1.2
  | .served _ => []
  | .waited _ => []

/-- The periods of all emitters that some turns attach. -/
def periods (c : SensorConsole σ) : List (Turn σ) → List Nat
  | [] => []
  | t :: turns => c.noted t ++ (c.take t).periods turns

/-- The emitter of the console's stream, if it has one. -/
def emitter? (c : SensorConsole σ) : Option Emitter :=
  (c.network.stream streamName).live.bind (·.emitter)

/-- A console whose emitters have some periods. -/
structure Paced (c : SensorConsole σ) (default : Nat) (periods : List Nat) : Prop where
  defaultPeriod : c.defaultPeriod = default
  network : c.network.Paced streamName periods c.network.elapsed

omit [Service σ] in
theorem run_onNetwork {α : Type} (f : NetworkM σ α) (c : SensorConsole σ) :
    (onNetwork f).run c = pure ((f.run c.network).1, { c with network := (f.run c.network).2 }) :=
  rfl

/-- Unless its call is over, the stream has an emitter that is first due after one period. -/
def Expects (c : SensorConsole σ) (period : Nat) : Prop :=
  (c.network.stream streamName).live = none ∨
    ∃ source, c.emitter? = some ⟨period, c.network.elapsed + period, source⟩

/-- What is said of a stream whose emitter was attached. -/
def startedText : String := say "Streaming random data has started"

theorem run_startStreamNoted (period : Option Nat) (token : Option String) (c : SensorConsole σ) :
    (startStreamNoted period token).run c =
      match (token.map Token.mk).or (c.identity.map (·.token)) with
      | none => ((say "Register first or pass a token", []), c)
      | some t =>
        let x := (Network.begin streamName t).run c.network
        match x.1 with
        | .error e => ((say e.message, []), { c with network := x.2 })
        | .ok .alreadyStreaming =>
          ((say "Stream is already opened", []), { c with network := x.2 })
        | .ok .started =>
          let y := (emitRandom (period.getD c.defaultPeriod)).run { c with network := x.2 }
          ((y.1, [period.getD c.defaultPeriod]),
            ((onNetwork (Network.openStream streamName t)).run y.2).2) := by
  simp only [startStreamNoted, StateT.run_bind, StateT.run_get, pure_bind]
  cases (token.map Token.mk).or (c.identity.map (·.token)) with
  | none => rfl
  | some t =>
    dsimp only
    rw [StateT.run_bind, run_onNetwork]
    generalize (Network.begin streamName t).run c.network = x
    obtain ⟨outcome, n⟩ := x
    match outcome with
    | .error e => rfl
    | .ok .alreadyStreaming => rfl
    | .ok .started => rfl

variable {c : SensorConsole σ} {default : Nat} {ps : List Nat}

omit [Service σ] in
theorem Paced.onNetwork (h : c.Paced default ps) {more : List Nat} {n : Network σ}
    {time : Nat} (hn : n.Paced streamName more time) :
    ({ c with network := n } : SensorConsole σ).Paced default more := by
  refine ⟨h.defaultPeriod, ?_⟩
  rw [hn.elapsed]
  exact hn

omit [Service σ] in
/-- Where a call still sends, an emitter is attached, and is first due after one period. -/
theorem run_emitRandom {l : LiveStream} (hl : (c.network.stream streamName).live = some l)
    (hsending : l.sending = true) (period : Nat) :
    ∃ source : ValueSource, let e : Emitter := ⟨period, c.network.elapsed + period, source⟩
      (emitRandom period).run c = (startedText, { c with
        network := (Network.occasion.run c.network).2.setStream streamName
          ((c.network.stream streamName).attachEmitter e).2 }) ∧
      ((c.network.stream streamName).attachEmitter e).2 =
        { c.network.stream streamName with live := some { l with emitter := some e } } := by
  have hattach (e : Emitter) := MeasurementStream.attachEmitter_of_sending hl hsending e
  refine ⟨.random (.seeded (UInt64.ofNat
    (Network.occasion.run c.network).1.freshId.value.toNat)), ?_, by rw [hattach]⟩
  simp only [emitRandom, StateT.run_bind, run_onNetwork, pure_bind, Network.run_emit]
  have hstream : (Network.occasion.run c.network).2.stream streamName =
    c.network.stream streamName := rfl
  have helapsed : (Network.occasion.run c.network).2.elapsed = c.network.elapsed := rfl
  rw [hstream, helapsed, hattach]
  rfl

/-- What follows once a stream was begun. -/
theorem emit_and_open (h : c.Paced default ps) {l : LiveStream}
    (hl : (c.network.stream streamName).live = some l) (hsending : l.sending = true)
    (period : Nat) (token : Token) :
    let x := (emitRandom period).run c
    let c' := ((onNetwork (Network.openStream streamName token)).run x.2).2
    x.1 = startedText ∧ c'.Paced default (ps ++ [period]) ∧ c'.Expects period := by
  obtain ⟨source, hrun, hstream⟩ := run_emitRandom hl hsending period
  dsimp only at hrun hstream ⊢
  have hmore := h.network.mono (List.subset_append_left ps [period])
  have hasked : (Network.occasion.run c.network).2.Paced streamName (ps ++ [period])
      c.network.elapsed := hmore.same rfl rfl rfl
  have hattached := hasked.setStream (hmore.stream.attachEmitter
    (e := ⟨period, c.network.elapsed + period, source⟩)
    (List.mem_append_right _ List.mem_cons_self) (Nat.le_refl _))
  rw [hrun]
  refine ⟨rfl, h.onNetwork (hattached.openStream token), ?_⟩
  rcases hattached.waits_openStream token with hsame | hidle
  · refine .inr ⟨source, ?_⟩
    rw [Network.stream_setStream] at hsame
    have helapsed := (hattached.openStream token).elapsed
    rw [emitter?, run_onNetwork]
    change (Network.stream _ streamName).live.bind _ = _
    dsimp only [pure]
    rw [hsame, helapsed, hstream]
    rfl
  · exact .inl hidle

/-- Either a line starts nothing, or it attaches one emitter, and unless the new call is already over
that one is first due after one period. -/
theorem startStreamNoted_cases (h : c.Paced default ps) (period : Option Nat)
    (token : Option String) :
    let x := (startStreamNoted period token).run c
    let p := period.getD default
    (x.1.1 ≠ startedText ∧ x.1.2 = [] ∧ x.2.Paced default ps) ∨
      (x.1.1 = startedText ∧ x.1.2 = [p] ∧ x.2.Paced default (ps ++ [p]) ∧
        x.2.Expects p) := by
  intro x p
  have hx : x = _ := run_startStreamNoted period token c
  have hp : period.getD c.defaultPeriod = p := by rw [h.defaultPeriod]
  clear_value x
  -- Where nothing is attached the answer is another text than that of a stream that has started.
  cases htoken : (token.map Token.mk).or (c.identity.map (·.token)) with
  | none =>
    simp only [htoken] at hx
    subst hx
    have hother : say "Register first or pass a token" ≠ startedText := by decide
    exact .inl ⟨hother, rfl, h⟩
  | some t =>
    have hbegun := h.network.begin t
    have hcases := Network.begin_cases streamName t c.network
    simp only [htoken, hp] at hx
    generalize (Network.begin streamName t).run c.network = y at hx hbegun hcases
    obtain ⟨outcome, n⟩ := y
    have hc : ({ c with network := n } : SensorConsole σ).Paced default ps := h.onNetwork hbegun
    rcases hcases with rfl | rfl | ⟨rfl, l, hl, hsending⟩
    · have hother : say Token.unfitError.message ≠ startedText := by decide
      subst hx
      exact .inl ⟨hother, rfl, hc⟩
    · have hother : say "Stream is already opened" ≠ startedText := by decide
      subst hx
      exact .inl ⟨hother, rfl, hc⟩
    · obtain ⟨hsaid, hpaced, hexpects⟩ := emit_and_open hc hl hsending p t
      subst hx
      exact .inr ⟨hsaid, rfl, hpaced, hexpects⟩

/-- The console after a line whose answer is known. -/
theorem run_enterNoted (line : String) (c : SensorConsole σ) :
    (enterNoted line).run c =
      if c.running then
        let x := match SensorLine.parse line with
          | .ok l => (answerLineNoted l).run c
          | .error e => (([e.message], []), c)
        let y := printReports.run x.2
        ((x.1.1.flatMap (·.splitOn "\n") ++ y.1, x.1.2), y.2)
      else (([], []), c) := by
  simp only [enterNoted, StateT.run_bind, StateT.run_get, pure_bind]
  cases c.running with
  | false => rfl
  | true => cases SensorLine.parse line <;> rfl

omit [Service σ] in
theorem run_printReports (c : SensorConsole σ) :
    (printReports.run c).2 = { c with network := { c.network with log := [] } } := by
  cases hr : c.running <;> simp [printReports, onNetwork, Network.takeLog, hr] <;> rfl

/-- The same console by its value, whether the periods are noted or not. -/
theorem run_enter (line : String) (c : SensorConsole σ) :
    (enter line).run c = (((enterNoted line).run c).1.1, ((enterNoted line).run c).2) := by
  rw [← enterNoted_value, StateT.run_map]
  rfl

theorem paced_register (h : c.Paced default ps) (r : SensorRegistration) :
    ((register r).run c).2.Paced default ps := by
  have hasked : ∀ service, ({ c with network := { (Network.occasion.run c.network).2 with
      service := service } } : SensorConsole σ).Paced default ps :=
    fun service => ⟨h.defaultPeriod, h.network.same rfl rfl rfl⟩
  simp only [register, StateT.run_bind, run_onNetwork, pure_bind, Network.run_ask]
  generalize (Client.registerSensor (σ := σ) r _).run _ = x
  obtain ⟨answer, service⟩ := x
  cases answer with
  | error e => exact hasked service
  | ok s => exact ⟨(hasked service).defaultPeriod, (hasked service).network⟩

theorem paced_answerLine (h : c.Paced default ps) {l : SensorLine}
    (hl : ∀ period token, l ≠ .startStream period token) :
    ((answerLine l).run c).2.Paced default ps := by
  cases l with
  | empty => exact h
  | register name location tags => exact paced_register h ⟨name, location, tags⟩
  | whoAmI =>
    simp only [answerLine, StateT.run_bind, StateT.run_get, pure_bind]
    cases c.identity <;> exact h
  | startStream period token => exact absurd rfl (hl period token)
  | endStream =>
    have hfinished := h.onNetwork h.network.finish
    simp only [answerLine, StateT.run_bind, run_onNetwork, pure_bind]
    cases ((Network.finish streamName).run c.network).1 <;> exact hfinished
  | quit =>
    have hfinished := h.onNetwork h.network.finish
    exact ⟨hfinished.defaultPeriod, hfinished.network⟩

/-- What a line that starts a stream attaches, and that no other line attaches anything. -/
theorem typed_cases (h : c.Paced default ps) (line : String) :
    let c' := c.take (.typed line)
    (c.noted (.typed line) = [] ∧ c'.Paced default ps ∧
      ∀ period token, SensorLine.parse line = .ok (.startStream period token) → c.running = true →
        ((startStream period token).run c).1 ≠ startedText) ∨
    ∃ period token, SensorLine.parse line = .ok (.startStream period token) ∧
      ((startStream period token).run c).1 = startedText ∧
      c.noted (.typed line) = [period.getD default] ∧
      c'.Paced default (ps ++ [period.getD default]) ∧ c'.Expects (period.getD default) := by
  rw [take, noted, run_enter, run_enterNoted]
  cases hrunning : c.running with
  | false => exact .inl ⟨rfl, h, fun _ _ _ ht => nomatch ht⟩
  | true =>
    simp only [if_true, run_printReports]
    cases hparse : SensorLine.parse line with
    | error e => exact .inl ⟨rfl, ⟨h.defaultPeriod, h.network.same rfl rfl rfl⟩, nofun⟩
    | ok l =>
      have hother (hl : ∀ period token, l ≠ .startStream period token) :
          ((answerLineNoted l).run c).1.2 = [] ∧ ((answerLineNoted l).run c).2.Paced default ps := by
        have hrun : (answerLineNoted l).run c =
            ((((answerLine l).run c).1, []), ((answerLine l).run c).2) := by
          cases l with
          | startStream period token => exact absurd rfl (hl period token)
          | _ => rfl
        rw [hrun]
        exact ⟨rfl, paced_answerLine h hl⟩
      by_cases hl : ∃ period token, l = .startStream period token
      · obtain ⟨period, token, rfl⟩ := hl
        have hsaid : ((startStream period token).run c).1 =
            ((startStreamNoted period token).run c).1.1 := by
          rw [← startStreamNoted_value, StateT.run_map]
          rfl
        rcases startStreamNoted_cases h period token with ⟨hno, hnone, hpaced⟩ | hstarted
        · refine .inl ⟨hnone, ⟨hpaced.defaultPeriod, hpaced.network.same rfl rfl rfl⟩, ?_⟩
          rintro _ _ ⟨⟩ -
          rwa [hsaid]
        · obtain ⟨hyes, hperiod, hpaced, hexpects⟩ := hstarted
          exact .inr ⟨period, token, rfl, hsaid.trans hyes, hperiod,
            ⟨hpaced.defaultPeriod, hpaced.network.same rfl rfl rfl⟩, hexpects⟩
      · obtain ⟨hnone, hpaced⟩ := hother fun period token heq => hl ⟨period, token, heq⟩
        refine .inl ⟨hnone, ⟨hpaced.defaultPeriod, hpaced.network.same rfl rfl rfl⟩, ?_⟩
        rintro period token ⟨⟩ -
        exact absurd ⟨period, token, rfl⟩ hl

theorem Paced.take (h : c.Paced default ps) (t : Turn σ) :
    (c.take t).Paced default (ps ++ c.noted t) := by
  cases t with
  | typed line =>
    rcases typed_cases h line with ⟨hnone, hpaced, -⟩ | ⟨period, token, -, -, hnoted, hpaced, -⟩
    · rwa [hnone, List.append_nil]
    · rwa [hnoted]
  | served f =>
    rw [noted, List.append_nil]
    exact h.onNetwork (h.network.serve f)
  | waited ms =>
    rw [noted, List.append_nil]
    exact h.onNetwork (h.network.wait ms)

theorem Paced.after (h : c.Paced default ps) (turns : List (Turn σ)) :
    (c.after turns).Paced default (ps ++ c.periods turns) := by
  induction turns generalizing c ps with
  | nil => rwa [periods, List.append_nil]
  | cons t turns ih =>
    have hrest := ih (h.take t)
    rwa [List.append_assoc] at hrest

omit [Service σ] in
/-- A line never has a period of zero. -/
theorem period_pos {line : String} {period : Nat} {token : Option String}
    (h : SensorLine.parse line = .ok (.startStream (some period) token)) : 0 < period := by
  unfold SensorLine.parse at h
  cases hl : SensorLine.ofWords? (Text.words line) with
  | none => simp [hl] at h
  | some l =>
    simp only [hl, Except.ok.injEq] at h
    subst h
    have hmeans := SensorLine.ofWords?_eq_some_iff.mp hl
    generalize Text.words line = ws at hmeans
    cases hmeans with
    | startStreamEvery hperiod => exact hperiod.2.1
    | startStreamWith _ hperiod => exact hperiod.2.1

/-- Every period is that of a line, or the default one. -/
theorem mem_periods (h : c.Paced default ps) {turns : List (Turn σ)} {p : Nat}
    (hp : p ∈ c.periods turns) : 0 < p ∨ p = default := by
  induction turns generalizing c ps with
  | nil => cases hp
  | cons t turns ih =>
    rcases List.mem_append.mp hp with hp | hp
    · cases t with
      | typed line =>
        rcases typed_cases h line with ⟨hnone, -, -⟩ | ⟨period, token, hparse, -, hnoted, -, -⟩
        · rw [hnone] at hp
          cases hp
        · rw [hnoted] at hp
          obtain rfl := List.mem_singleton.mp hp
          cases period with
          | none => exact .inr rfl
          | some period => exact .inl (period_pos hparse)
      | _ => cases hp
    · exact ih (h.take t) hp

omit [Service σ] in
theorem paced_connected (service : σ) (clock : Clock) (randomness : RandomSource)
    (flag : Option Nat) (s : ClientSettings) :
    (connected (.around service clock randomness) flag s).Paced
      (flag.getD s.measurementPeriod) [] :=
  ⟨rfl, Network.paced_around streamName service clock randomness⟩

/-- An emitter with a period pushes before it is over; one without never does. -/
theorem Paced.emits (h : c.Paced default ps) {e : Emitter} (he : c.emitter? = some e) :
    e.period ∈ ps ∧
      (0 < e.period → c.network.nextDue (c.network.elapsed + e.period) = some (e.due, streamName)) ∧
      (e.period = 0 → ∀ ms, (c.take (.waited ms)).network =
        { c.network with elapsed := c.network.elapsed + ms }) := by
  obtain ⟨l, hl, hemitter⟩ := Option.bind_eq_some_iff.mp he
  obtain ⟨-, hmem, hdue⟩ := h.network.stream l e hl hemitter
  have hnext : (c.network.stream streamName).due? =
      if e.period = 0 then none else some e.due := by
    rw [Client.MeasurementStream.due?]
    exact congrArg (Option.bind · _) he
  refine ⟨hmem, fun hpos => ?_, fun hzero ms => ?_⟩
  · rw [h.network.single.nextDue_eq, hnext, if_neg (by omega), Option.filter_some,
      if_pos (decide_eq_true hdue), Option.map_some]
  · exact h.network.wait_of_never_due (by rw [hnext, if_pos hzero]) ms

/-- In every run of a sensor's console each emitter gets the period of the line that starts the
stream, or else that of the command line or of the settings. It is zero exactly if the command line
says so and the line says nothing; then the stream is said to have started, and nothing is pushed. -/
theorem emitters_have_periods_unless_flag_is_zero {s : Config.Sources} {x : Settings}
    (hload : s.load = .ok x) (flag : Option Nat) (service : σ) (clock : Clock)
    (randomness : RandomSource) (turns : List (Turn σ)) :
    let start := connected (.around service clock randomness) flag x.client
    let c := start.after turns
    (∀ line, Prod.fst <$> enterNoted (σ := σ) line = enter line) ∧
    (∀ p ∈ start.periods turns, 0 < p ∨ flag = some 0) ∧
    (∀ line,
      (c.noted (.typed line) = [] ∧
        ∀ period token, SensorLine.parse line = .ok (.startStream period token) →
          c.running = true → ((startStream period token).run c).1 ≠ startedText) ∨
      ∃ period token, SensorLine.parse line = .ok (.startStream period token) ∧
        ((startStream period token).run c).1 = startedText ∧
        let p := period.getD (flag.getD x.client.measurementPeriod)
        c.noted (.typed line) = [p] ∧ (p = 0 ↔ flag = some 0 ∧ period = none) ∧
          (c.take (.typed line)).Expects p) ∧
    ∀ e, c.emitter? = some e → e.period ∈ start.periods turns ∧
      (0 < e.period → c.network.nextDue (c.network.elapsed + e.period) = some (e.due, streamName)) ∧
      (e.period = 0 → ∀ ms, (c.take (.waited ms)).network =
        { c.network with elapsed := c.network.elapsed + ms }) := by
  intro start c
  obtain ⟨-, -, -, -, -, -, -, hzero⟩ := Config.Sources.load_eq_ok hload
  obtain ⟨-, -, hperiod⟩ := Settings.zero?_eq_none_iff.mp hzero
  have hpos : 0 < x.client.measurementPeriod := Nat.pos_of_ne_zero hperiod
  have hdefault : flag.getD x.client.measurementPeriod = 0 ↔ flag = some 0 := by
    cases flag with
    | none => simpa using Nat.ne_of_gt hpos
    | some period => simp
  have hstart := paced_connected service clock randomness flag x.client
  have hc := hstart.after turns
  refine ⟨enterNoted_value, fun p hp => ?_, fun line => ?_, fun e he => hc.emits he⟩
  · rcases mem_periods hstart hp with hp | rfl
    · exact .inl hp
    · rw [← hdefault]
      exact Nat.eq_zero_or_pos _ |>.symm
  · rcases typed_cases hc line with ⟨hnone, -, hother⟩ | hstarted
    · exact .inl ⟨hnone, hother⟩
    · obtain ⟨period, token, hparse, hsaid, hnoted, -, hexpects⟩ := hstarted
      refine .inr ⟨period, token, hparse, hsaid, hnoted, ?_, hexpects⟩
      cases period with
      | none => simpa using hdefault
      | some period =>
        have hperiod := period_pos hparse
        simpa using Nat.ne_of_gt hperiod

/-- What is loaded where no source says anything. -/
def plainSettings : Settings :=
  ⟨⟨"127.0.0.1", 8090, 50, 256⟩, ⟨none⟩, ⟨"http://127.0.0.1:8090", 1000⟩, ⟨"info", none⟩⟩

/-- A sensor's console, with a service that registers one sensor and takes as many records as are
sent. -/
def quietConsole (flag : Option Nat) : SensorConsole ScriptedService :=
  let service : ScriptedService := .following ⟨.ok ⟨⟨"token"⟩, "5"⟩, .error missingAnswer,
    .error missingAnswer, .error missingAnswer, .error missingAnswer, [], []⟩
  connected (.around service (.startingAt Host.epoch) ⟨0⟩) flag plainSettings.client

def registerAndStart {σ : Type} : List (Turn σ) :=
  [.typed "-register north roof", .typed "-startstream"]

theorem emitters_have_periods_by_default :
    (⟨fun _ => none, none, [], none, none⟩ : Config.Sources).load = .ok plainSettings ∧
      (quietConsole none).periods registerAndStart = [1000] ∧
      ∀ p ∈ (quietConsole none).periods registerAndStart, 0 < p := by
  refine ⟨rfl, by decide +kernel, fun p hp => ?_⟩
  have hload : (⟨fun _ => none, none, [], none, none⟩ : Config.Sources).load = .ok plainSettings :=
    rfl
  have hall := (emitters_have_periods_unless_flag_is_zero hload none _ _ _ registerAndStart).2.1 p hp
  rcases hall with hpos | hflag
  · exact hpos
  · cases hflag

/-- With a period of zero on the command line a stream starts and stays open, and however long one
waits, nothing is sent on it. -/
theorem stream_of_period_zero_sends_nothing :
    (⟨fun _ => none, none, [], none, none⟩ : Config.Sources).load = .ok plainSettings ∧
    CommandLine.Invocation.parse [] ["sensor", "--period-ms", "0"] =
      .ok ⟨none, none, none, .sensor (some 0)⟩ ∧
    let registered := (quietConsole (some 0)).take (.typed "-register north roof")
    let c := (quietConsole (some 0)).after registerAndStart
    ((startStream none none).run registered).1 = startedText ∧
    (quietConsole (some 0)).periods registerAndStart = [0] ∧
    (c.network.stream streamName).isStreaming = true ∧
    ∀ ms, (c.take (.waited ms)).network = { c.network with elapsed := c.network.elapsed + ms } := by
  refine ⟨rfl, rfl, by decide +kernel, by decide +kernel, by decide +kernel, ?_⟩
  have hperiod : ((quietConsole (some 0)).after registerAndStart).emitter?.map (·.period) = some 0 := by
    decide +kernel
  obtain ⟨e, he, hzero⟩ := Option.map_eq_some_iff.mp hperiod
  have hstart : (quietConsole (some 0)).Paced 0 [] := paced_connected ..
  exact ((hstart.after registerAndStart).emits he).2.2 hzero

end Console.SensorConsole
end SensorRelay
