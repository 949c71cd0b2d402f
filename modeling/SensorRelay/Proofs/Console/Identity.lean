import SensorRelay.Proofs.Console.Turns
import SensorRelay.Scripted

/-!
# The identity that control frames travel under

A subscriber's console against a service that answers as it likes and sends what it likes between
two lines. A control frame travels on a stream that was opened with the token in force at that time.
An open stream is used as it is, so the token may no longer be the current one.
-/

namespace SensorRelay.Console

open Auth Client Rpc

/-- A call was made once, under a token that was in force then; the rest came since. -/
def MadeUnder (wire : List Remark) (k : CallId) (token : Token) (since : List Remark) : Prop :=
  ∃ before header, wire = before ++ .called k (some header) :: since ∧
    token.attach = .ok header ∧ Remark.inForce before = some token ∧
    ∀ header', .called k header' ∉ before ++ since

/-- The current token is the last one that was given, every call has a number of its own, and the
open stream is a call under the token that was in force when it was made. -/
structure Attributed (current? : Option Token) (wire : List Remark) (next : CallId)
    (call? : Option CallId) : Prop where
  current : current? = Remark.inForce wire
  numbered : ∀ k header, .called k header ∈ wire → k < next
  made : ∀ k, call? = some k → ∃ token since, MadeUnder wire k token since

section Wire

variable {wire since : List Remark} {k next : CallId} {token : Token}
  {current? : Option Token} {call? : Option CallId}

theorem MadeUnder.append (h : MadeUnder wire k token since) (es : List Remark)
    (hes : ∀ header, .called k header ∉ es) : MadeUnder (wire ++ es) k token (since ++ es) := by
  obtain ⟨before, header, rfl, hattach, hforce, honce⟩ := h
  refine ⟨before, header, by rw [List.append_assoc, List.cons_append], hattach, hforce,
    fun header' hmem => ?_⟩
  rw [← List.append_assoc] at hmem
  exact (List.mem_append.mp hmem).elim (honce header') (hes header')

theorem MadeUnder.mem (h : MadeUnder wire k token since) : ∃ header, .called k header ∈ wire := by
  obtain ⟨before, header, rfl, -⟩ := h
  exact ⟨some header, by simp⟩

/-- A token in whose place no other was given is still in force. -/
theorem MadeUnder.inForce (h : MadeUnder wire k token since)
    (hsince : ∀ other, .granted other ∉ since) : Remark.inForce wire = some token := by
  obtain ⟨before, header, rfl, -, hforce, -⟩ := h
  have hnone : Remark.inForce (.called k (some header) :: since) = none := by
    apply Remark.inForce_eq_none
    intro other hmem
    rcases List.mem_cons.mp hmem with heq | hmem
    · cases heq
    · exact hsince other hmem
  rw [Remark.inForce_append, hnone, hforce]
  rfl

namespace Attributed

theorem empty : Attributed none [] 0 none where
  current := rfl
  numbered _ _ hmem := nomatch hmem
  made _ hk := nomatch hk

variable (h : Attributed current? wire next call?)

include h

theorem lost : Attributed current? wire next none where
  current := h.current
  numbered := h.numbered
  made _ hk := nomatch hk

theorem append (es : List Remark) (hes : ∀ k header, .called k header ∉ es) :
    Attributed ((Remark.inForce es).or current?) (wire ++ es) next call? where
  current := by rw [Remark.inForce_append, h.current]
  numbered k header hmem :=
    (List.mem_append.mp hmem).elim (h.numbered k header) fun hmem => absurd hmem (hes k header)
  made k hk := by
    obtain ⟨token, since, hmade⟩ := h.made k hk
    exact ⟨token, since ++ es, hmade.append es (hes k)⟩

theorem granted (token : Token) :
    Attributed (some token) (wire ++ [.granted token]) next call? :=
  h.append [.granted token] (by simp)

theorem sent (k : CallId) (r : SubscribeRequest) :
    Attributed current? (wire ++ [.sent k r]) next call? :=
  h.append [.sent k r] (by simp)

theorem called (header : Option HeaderValue) :
    Attributed current? (wire ++ [.called next header]) (next + 1) call? where
  current := by
    rw [Remark.inForce_append, h.current]
    rfl
  numbered k header' hmem := by
    rcases List.mem_append.mp hmem with hmem | hmem
    · exact Nat.lt_succ_of_lt (h.numbered k header' hmem)
    · cases List.mem_singleton.mp hmem
      exact Nat.lt_succ_self next
  made k hk := by
    obtain ⟨token, since, hmade⟩ := h.made k hk
    obtain ⟨header', hmem⟩ := hmade.mem
    have hlt := h.numbered k header' hmem
    refine ⟨token, _, hmade.append _ fun header'' heq => ?_⟩
    cases List.mem_singleton.mp heq
    exact Nat.lt_irrefl next hlt

end Attributed

/-- A call with a new number is made under the current token. -/
theorem Attributed.madeUnder (h : Attributed (some token) wire next call?) {header : HeaderValue}
    (hattach : token.attach = .ok header) :
    MadeUnder (wire ++ [.called next (some header)]) next token [] := by
  refine ⟨wire, header, rfl, hattach, h.current.symm, fun header' hmem => ?_⟩
  rw [List.append_nil] at hmem
  exact Nat.lt_irrefl next (h.numbered next header' hmem)

end Wire

section Conveyed

variable {σ : Type} [Service σ] {name : String} {token : Token} {r : SubscribeRequest}
  {n : Network (Overheard σ)} {es : List Remark} {next : CallId} {call? : Option CallId}

theorem Attributed.conveyed
    (h : Attributed (some token) n.service.wire n.nextCall (n.callOf? name))
    (hc : Network.Conveyed name token r n es next call?) :
    Attributed (some token) (n.service.wire ++ es) next call? := by
  cases hc with
  | unfit hk htoken =>
    rw [List.append_nil]
    exact h.lost
  | refused hk htoken hoffer => exact (h.called _).lost
  | @opened header early after hk htoken hoffer hafter =>
    have hsent := (h.called (some header)).sent n.nextCall r
    rw [List.append_assoc] at hsent
    rcases hafter with rfl | rfl
    · refine ⟨hsent.current, hsent.numbered, fun k hk => ?_⟩
      cases hk
      have hmade := (h.madeUnder htoken).append [.sent n.nextCall r] (by simp)
      rw [List.append_assoc] at hmade
      exact ⟨token, _, hmade⟩
    · exact hsent.lost
  | @reused k after hk hafter =>
    have hsent := h.sent k r
    rcases hafter with rfl | rfl
    · rwa [hk] at hsent
    · exact hsent.lost

/-- The one frame that is conveyed travels on a call that is known, and that was made under the
current token if none was given since. -/
theorem Attributed.frame
    (h : Attributed (some token) n.service.wire n.nextCall (n.callOf? name))
    (hc : Network.Conveyed name token r n es next call?) {k : CallId} {r' : SubscribeRequest}
    (hmem : .sent k r' ∈ es) :
    r' = r ∧ ∃ earlier token' since, es = earlier ++ [.sent k r] ∧
      MadeUnder (n.service.wire ++ earlier) k token' since ∧
      ((∀ other, .granted other ∉ since) → token = token') := by
  cases hc with
  | unfit hk htoken => cases hmem
  | refused hk htoken hoffer => cases List.mem_singleton.mp hmem
  | @opened header early after hk htoken hoffer hafter =>
    have heq : Remark.sent k r' = .sent n.nextCall r := by simpa using hmem
    cases heq
    exact ⟨rfl, [.called n.nextCall (some header)], token, [], rfl, h.madeUnder htoken,
      fun _ => rfl⟩
  | @reused k after hk hafter =>
    cases List.mem_singleton.mp hmem
    obtain ⟨token', since, hmade⟩ := h.made k hk
    refine ⟨rfl, [], token', since, rfl, by rwa [List.append_nil], fun hsince => ?_⟩
    have hforce := h.current.trans (hmade.inForce hsince)
    exact Option.some.inj hforce

/-- A frame is conveyed wherever a stream is open or can be opened. -/
theorem exists_sent_iff (hc : Network.Conveyed name token r n es next call?) :
    (∃ k, .sent k r ∈ es) ↔
      (n.session name).isOpen = true ∨ ∃ early, Network.offer token n = .ok early := by
  rw [Network.isOpen_eq]
  cases hc with
  | unfit hk htoken => simp [hk, Network.offer, htoken]
  | refused hk htoken hoffer => simp [hk, hoffer]
  | opened hk htoken hoffer hafter => simp [hoffer]
  | reused hk hafter => simp [hk]

end Conveyed

namespace SubscriberLine

/-- The control frame that a command asks for. -/
def control? : SubscriberLine → Option SubscribeRequest
  | subscribeOn sensorId => some ⟨sensorId, false⟩
  | unsubscribeFrom sensorId => some ⟨sensorId, true⟩
  | _ => none

/-- Does the command ask for a token? -/
def isHandshake : SubscriberLine → Bool
  | register .. | logIn .. => true
  | _ => false

theorem control?_of_isHandshake {l : SubscriberLine} (h : l.isHandshake = true) :
    l.control? = none := by
  cases l with
  | subscribeOn sensorId => cases h
  | unsubscribeFrom sensorId => cases h
  | _ => rfl

/-- The command of a line. A line that is none asks for as much as an empty one. -/
def command (line : String) : SubscriberLine :=
  (parse line).toOption.getD empty

end SubscriberLine

namespace SubscriberConsole

variable {σ : Type}

/-- What was overheard so far. -/
def wire (c : SubscriberConsole (Overheard σ)) : List Remark :=
  c.network.service.wire

/-- Nothing was overheard and nobody logged in, though the stream may be over. -/
structure Calm (c c' : SubscriberConsole (Overheard σ)) : Prop where
  network : Network.Calm sessionName c.network c'.network
  identity : c'.identity = c.identity

theorem calm_onNetwork {α : Type} {f : NetworkM (Overheard σ) α}
    (hf : ∀ n, Network.Calm sessionName n (f.run n).2) (c : SubscriberConsole (Overheard σ)) :
    Calm c ((onNetwork f).run c).2 :=
  ⟨hf c.network, rfl⟩

theorem calm_pass {α : Type} (f : StateM σ α) (n : Network (Overheard σ)) :
    Network.Calm sessionName n ((Network.ask (Overheard.pass f)).run n).2 :=
  ⟨rfl, rfl, .inl rfl⟩

/-- What is printed for an answer changes nothing. -/
theorem Calm.bind {α β : Type} {f : SubscriberConsoleM (Overheard σ) α}
    {g : α → SubscriberConsoleM (Overheard σ) β} {c : SubscriberConsole (Overheard σ)}
    (hf : Calm c (f.run c).2) (hg : ∀ a c', ((g a).run c').2 = c') :
    Calm c ((f >>= g).run c).2 := by
  rw [StateT.run_bind]
  change Calm c ((g (f.run c).1).run (f.run c).2).2
  rwa [hg]

variable [Service σ]

/-- What a command comes to: what is overheard, and the identity, the number of the next call and
the call of the open stream afterwards. -/
inductive Heard (c : SubscriberConsole (Overheard σ)) (l : SubscriberLine) :
    List Remark → Option ClientIdentity → CallId → Option CallId → Prop
  | quiet {call? : Option CallId} :
      c.running = false ∨ l.control? = none ∨ c.identity = none →
      call? = c.network.callOf? sessionName ∨ call? = none →
      Heard c l [] c.identity c.network.nextCall call?
  | granted (client : ClientIdentity) : l.isHandshake = true →
      Heard c l [.granted client.token] (some client) c.network.nextCall
        (c.network.callOf? sessionName)
  | conveyed {client : ClientIdentity} {r : SubscribeRequest} {es : List Remark} {next : CallId}
      {call? : Option CallId} : c.running = true → l.control? = some r →
      c.identity = some client →
      Network.Conveyed sessionName client.token r c.network es next call? →
      Heard c l es c.identity next call?

/-- One console comes of another by a command. -/
def Follows (c : SubscriberConsole (Overheard σ)) (l : SubscriberLine)
    (c' : SubscriberConsole (Overheard σ)) : Prop :=
  ∃ es, c'.wire = c.wire ++ es ∧
    Heard c l es c'.identity c'.network.nextCall (c'.network.callOf? sessionName)

variable {c c' : SubscriberConsole (Overheard σ)} {l : SubscriberLine}

theorem Calm.follows (h : Calm c c')
    (hquiet : c.running = false ∨ l.control? = none ∨ c.identity = none) : Follows c l c' := by
  refine ⟨[], h.network.wire.trans (List.append_nil _).symm, ?_⟩
  rw [h.identity, h.network.nextCall]
  exact .quiet hquiet h.network.callOf?

theorem follows_adopt (greeting : String)
    (f : Occasion → StateM σ (Except Error ClientIdentity)) (c : SubscriberConsole (Overheard σ))
    (hl : l.isHandshake = true) :
    Follows c l ((do
      let o ← onNetwork Network.occasion
      adopt greeting (← onNetwork (Network.ask (Overheard.overhear Overheard.acquires (f o)))) :
        SubscriberConsoleM (Overheard σ) (List String)).run c).2 := by
  let x := (f (Network.occasion.run c.network).1).run c.network.service.inner
  let asked : SubscriberConsole (Overheard σ) :=
    { c with network := { (Network.occasion.run c.network).2 with
        service := ⟨x.2, c.wire ++ Overheard.acquires x.1⟩ } }
  change Follows c l ((adopt greeting x.1).run asked).2
  have hwire : asked.wire = c.wire ++ Overheard.acquires x.1 := rfl
  cases hx : x.1 with
  | ok client =>
    rw [hx] at hwire
    exact ⟨_, hwire, .granted client hl⟩
  | error e =>
    rw [hx] at hwire
    exact Calm.follows ⟨⟨hwire.trans (List.append_nil _), rfl, .inl rfl⟩, rfl⟩
      (.inr (.inl (SubscriberLine.control?_of_isHandshake hl)))

theorem follows_control {r : SubscribeRequest} (hrunning : c.running = true)
    (hl : l.control? = some r) : Follows c l ((control r).run c).2 := by
  rw [run_control]
  cases hc : c.identity with
  | none => exact Calm.follows ⟨.refl sessionName _, rfl⟩ (.inr (.inr hc))
  | some client =>
    obtain ⟨es, hwire, hconveyed⟩ :=
      Network.conveyed_control sessionName client.token r c.network
    exact ⟨es, hwire, .conveyed hrunning hl hc hconveyed⟩

theorem follows_answerLine (hrunning : c.running = true) (l : SubscriberLine) :
    Follows c l ((answerLine l).run c).2 := by
  cases l with
  | empty => exact Calm.follows ⟨.refl sessionName _, rfl⟩ (.inr (.inl rfl))
  | register login password email =>
    simp only [answerLine, Overheard.registerClient_eq]
    exact follows_adopt _ _ c rfl
  | logIn login password =>
    simp only [answerLine, Overheard.logIn_eq]
    exact follows_adopt _ _ c rfl
  | list =>
    rw [answerLine, Overheard.roster_eq]
    refine Calm.follows (.bind (calm_onNetwork (calm_pass (roster [])) c) fun answer c' => ?_)
      (.inr (.inl rfl))
    cases answer <;> rfl
  | history sensorId depth =>
    rw [answerLine, Overheard.history_eq]
    refine Calm.follows (.bind (calm_onNetwork (calm_pass (history sensorId depth)) c)
      fun answer c' => ?_) (.inr (.inl rfl))
    cases answer <;> rfl
  | subscribeOn sensorId => exact follows_control hrunning rfl
  | unsubscribeFrom sensorId => exact follows_control hrunning rfl
  | disconnect =>
    rw [answerLine]
    refine Calm.follows (.bind (calm_onNetwork (Network.calm_close (σ := σ) sessionName) c)
      fun answer c' => ?_) (.inr (.inl rfl))
    cases answer <;> rfl
  | quit =>
    have hcalm := Network.calm_close (σ := σ) sessionName c.network
    exact Calm.follows ⟨hcalm, rfl⟩ (.inr (.inl rfl))

theorem follows_enter (line : String) (c : SubscriberConsole (Overheard σ)) :
    Follows c (.command line) ((enter line).run c).2 := by
  rw [run_enter]
  cases hrunning : c.running with
  | false => exact Calm.follows ⟨.refl sessionName _, rfl⟩ (.inl hrunning)
  | true =>
    simp only [if_true]
    rw [run_printReports, answer, SubscriberLine.command]
    cases SubscriberLine.parse line with
    | ok l => exact follows_answerLine hrunning l
    | error e => exact follows_answerLine hrunning .empty

theorem calm_serve (f : StateM σ (List Signal)) (c : SubscriberConsole (Overheard σ)) :
    Calm c ((serve (Overheard.pass f)).run c).2 :=
  calm_onNetwork (fun n => (calm_pass f n).trans (Network.calm_receiveAll _ _ _)) c

/-- What was overheard explains the identity and the open stream. -/
def Traceable (c : SubscriberConsole (Overheard σ)) : Prop :=
  Attributed (c.identity.map (·.token)) c.wire c.network.nextCall (c.network.callOf? sessionName)

omit [Service σ] in
theorem traceable_connected (service : σ) (clock : Clock) (randomness : RandomSource)
    (json : Bool) :
    Traceable (connected (.around (Overheard.mk service []) clock randomness) json) :=
  Attributed.empty

omit [Service σ] in
theorem Calm.traceable (h : Calm c c') (hc : Traceable c) : Traceable c' := by
  rw [Traceable, h.identity, wire, h.network.wire, h.network.nextCall]
  rcases h.network.callOf? with heq | heq
  · rw [heq]
    exact hc
  · rw [heq]
    exact Attributed.lost hc

omit [Service σ] in
theorem Traceable.attributed {client : ClientIdentity} (hc : Traceable c)
    (hidentity : c.identity = some client) :
    Attributed (some client.token) c.network.service.wire c.network.nextCall
      (c.network.callOf? sessionName) := by
  rw [Traceable, hidentity] at hc
  exact hc

namespace Heard

variable {es : List Remark} {identity : Option ClientIdentity} {next : CallId}
  {call? : Option CallId} (h : Heard c l es identity next call?)

include h

theorem attributed (hc : Traceable c) :
    Attributed (identity.map (·.token)) (c.wire ++ es) next call? := by
  cases h with
  | quiet hquiet hcall =>
    rw [List.append_nil]
    rcases hcall with rfl | rfl
    · exact hc
    · exact Attributed.lost hc
  | granted client hl => exact Attributed.granted hc client.token
  | conveyed hrunning hl hidentity hconveyed =>
    rw [hidentity]
    exact (hc.attributed hidentity).conveyed hconveyed

theorem isHandshake {token : Token} (hmem : .granted token ∈ es) : l.isHandshake = true := by
  cases h with
  | quiet hquiet hcall => cases hmem
  | granted client hl => exact hl
  | conveyed hrunning hl hidentity hconveyed => cases hconveyed <;> simp at hmem

theorem frame (hc : Traceable c) {k : CallId} {r : SubscribeRequest} (hmem : .sent k r ∈ es) :
    l.control? = some r ∧ ∃ earlier token since, es = earlier ++ [.sent k r] ∧
      MadeUnder (c.wire ++ earlier) k token since ∧
      ((∀ other, .granted other ∉ since) → c.identity.map (·.token) = some token) := by
  cases h with
  | quiet hquiet hcall => cases hmem
  | granted client hl => cases List.mem_singleton.mp hmem
  | conveyed hrunning hl hidentity hconveyed =>
    obtain ⟨rfl, earlier, token, since, hes, hmade, hcurrent⟩ :=
      (hc.attributed hidentity).frame hconveyed hmem
    refine ⟨hl, earlier, token, since, hes, hmade, fun hsince => ?_⟩
    rw [hidentity, ← hcurrent hsince]
    rfl

theorem sent_iff {r : SubscribeRequest} (hr : l.control? = some r) :
    (∃ k, .sent k r ∈ es) ↔ c.running = true ∧ ∃ client, c.identity = some client ∧
      ((c.network.session sessionName).isOpen = true ∨
        ∃ early, Network.offer client.token c.network = .ok early) := by
  cases h with
  | quiet hquiet hcall =>
    rcases hquiet with hoff | hnone | hnobody
    · simp [hoff]
    · rw [hr] at hnone
      cases hnone
    · simp [hnobody]
  | granted client hl =>
    rw [SubscriberLine.control?_of_isHandshake hl] at hr
    cases hr
  | conveyed hrunning hl hidentity hconveyed =>
    obtain rfl := Option.some.inj (hr.symm.trans hl)
    rw [exists_sent_iff hconveyed]
    simp [hrunning, hidentity]

end Heard

theorem Follows.traceable (h : Follows c l c') (hc : Traceable c) : Traceable c' := by
  obtain ⟨es, hwire, hheard⟩ := h
  rw [Traceable, hwire]
  exact hheard.attributed hc

theorem traceable_take (hc : Traceable c) (t : Turn σ) : Traceable (c.take t.overheard) := by
  cases t with
  | typed line => exact (follows_enter line c).traceable hc
  | served f => exact (calm_serve f c).traceable hc

theorem traceable_after (hc : Traceable c) (turns : List (Turn σ)) :
    Traceable (c.after (turns.map .overheard)) := by
  induction turns generalizing c with
  | nil => exact hc
  | cons t turns ih => exact ih (traceable_take hc t)

/-- Whatever is typed and whatever the service does, with or without anybody listening, the identity
has the token that was given last, and only commands that ask for one change it. Control frames are
sent for control commands only, and wherever there is an identity and a stream is open or can be
opened. Each travels on a call that was made once, under the token that was in force then; unless
another was given since, that is the current one. -/
theorem frames_travel_under_token_of_opening (service : σ) (clock : Clock)
    (randomness : RandomSource) (json : Bool) (turns : List (Turn σ)) :
    let plain := (connected (.around service clock randomness) json).after turns
    let c := (connected (.around (Overheard.mk service []) clock randomness) json).after
      (turns.map .overheard)
    c.unheard = plain ∧ c.identity.map (·.token) = Remark.inForce c.wire ∧
    (∀ f, (c.take (.served (Overheard.pass f))).wire = c.wire ∧
      (c.take (.served (Overheard.pass f))).identity = c.identity) ∧
    ∀ line, ((enter line).run c).1 = ((enter line).run plain).1 ∧
      ∃ es, (c.take (.typed line)).wire = c.wire ++ es ∧
      (∀ token, .granted token ∈ es → (SubscriberLine.command line).isHandshake = true) ∧
      (∀ k r, .sent k r ∈ es → (SubscriberLine.command line).control? = some r ∧
        ∃ earlier token since, es = earlier ++ [.sent k r] ∧
          MadeUnder (c.wire ++ earlier) k token since ∧
          ((∀ other, .granted other ∉ since) → c.identity.map (·.token) = some token)) ∧
      ∀ r, (SubscriberLine.command line).control? = some r → ((∃ k, .sent k r ∈ es) ↔
        c.running = true ∧ ∃ client, c.identity = some client ∧
          ((c.network.session sessionName).isOpen = true ∨
            ∃ early, Network.offer client.token c.network = .ok early)) := by
  intro plain c
  have hplain : c.unheard = plain := unheard_after _ turns
  have hc : Traceable c := traceable_after (traceable_connected ..) turns
  refine ⟨hplain, hc.current, fun f => ?_, fun line => ⟨?_, ?_⟩⟩
  · have hcalm := calm_serve f c
    exact ⟨hcalm.network.wire, hcalm.identity⟩
  · rw [← hplain]
    exact (congrArg Prod.fst (forgets_enter line c)).symm
  · obtain ⟨es, hwire, hheard⟩ := follows_enter line c
    exact ⟨es, hwire, fun token hmem => hheard.isHandshake hmem,
      fun k r hmem => hheard.frame hc hmem, fun r hr => hheard.sent_iff hr⟩

/-- A service that gives one token for a registration and another for a login. -/
def twoTokens : ScriptedService :=
  .following ⟨.error missingAnswer, .ok ⟨"first"⟩, .ok ⟨"second"⟩, .error missingAnswer,
    .error missingAnswer, [], []⟩

/-- After a login a frame travels on the stream that was opened before it. -/
theorem frame_travels_under_former_token :
    let c := (connected (.around (Overheard.mk twoTokens [])
      (.startingAt ⟨0, 0, 0, by decide, by decide, by decide⟩) ⟨0⟩) false).after
        [.typed "-register a b c", .typed "-subscribeon x", .typed "-login a b"]
    c.identity.map (·.token) = some ⟨"second"⟩ ∧
      (c.take (.typed "-subscribeon y")).wire = c.wire ++ [.sent 0 ⟨"y", false⟩] ∧
      ∃ since, MadeUnder c.wire 0 ⟨"first"⟩ since := by
  intro c
  have hwire : ∃ header, Token.attach ⟨"first"⟩ = .ok header ∧ c.wire =
      [.granted ⟨"first"⟩, .called 0 (some header), .sent 0 ⟨"x", false⟩, .granted ⟨"second"⟩] :=
    ⟨_, rfl, by decide +kernel⟩
  obtain ⟨header, hattach, hwire⟩ := hwire
  refine ⟨by decide +kernel, by decide +kernel, [.sent 0 ⟨"x", false⟩, .granted ⟨"second"⟩],
    [.granted ⟨"first"⟩], header, hwire, hattach, rfl, ?_⟩
  simp

end SubscriberConsole

end SensorRelay.Console
