import SensorRelay.Proofs.Server.Relay

/-!
# Authorization

Peers ask for what they like under whatever header they like. A sensor is changed only on
measurement calls that were opened under its own token, and only registered clients subscribe. An
id is always taken from the token and never from what is sent, so neither kind of token opens the
calls of the other, whatever a client calls itself.
-/

namespace SensorRelay

open Auth Rpc

/-- What a peer sends: a call under some header, or something on the request half of an open
call. -/
inductive Request
  | call (header : Option HeaderValue) (c : Call)
  | roster (header : Option HeaderValue) (tags : List String)
  | measurement (k : CallId) (u : Upload MeasurementRequest) (o : Occasion)
  | control (k : CallId) (u : Upload SubscribeRequest)

namespace Request

/-- An upload has no header besides that of its call. -/
def header : Request → Option HeaderValue
  | call header _ => header
  | roster header _ => header
  | measurement .. => none
  | control .. => none

def action : Request → Action
  | call header c => c.action header
  | roster _ tags => .roster tags
  | measurement k u o => .uploadMeasurement k u o
  | control k u => .uploadControl k u

variable {r : Request} {header : Option HeaderValue}

theorem eq_of_action_openMeasurements (hr : r.action = .openMeasurements header) :
    r = .call header .measurements := by
  cases r with
  | call header' c =>
    cases c <;> cases hr
    rfl
  | _ => cases hr

theorem eq_of_action_openSubscription (hr : r.action = .openSubscription header) :
    r = .call header .subscription := by
  cases r with
  | call header' c =>
    cases c <;> cases hr
    rfl
  | _ => cases hr

theorem eq_of_action_uploadMeasurement {k : CallId} {u : Upload MeasurementRequest} {o : Occasion}
    (hr : r.action = .uploadMeasurement k u o) : r = .measurement k u o := by
  cases r with
  | call header' c => cases c <;> cases hr
  | measurement k' u' o' =>
    cases hr
    rfl
  | _ => cases hr

end Request

namespace Server

variable {s : Server} {header : Option HeaderValue} {p : Option Principal}

/-- The sensor that a principal is, if it is one. -/
def sensorFor : Option Principal → Except Refusal Uuid
  | some (.sensor id) => .ok id
  | some (.client _) => .error .notASensor
  | none => .error .unauthenticated

/-- The registered client that a principal is, if it is one. -/
def loginFor (s : Server) : Option Principal → Except Refusal String
  | some (.client login) => if s.accounts.contains login then .ok login else .error .unknownLogin
  | some (.sensor _) => .error .notAClient
  | none => .error .unauthenticated

theorem sensorOf_of_authenticate (hp : s.issuer.authenticate header = .ok p) :
    s.sensorOf header = sensorFor p := by
  unfold sensorOf Issuer.identify
  rw [hp]
  rcases p with _ | p
  · rfl
  · cases p <;> rfl

theorem loginOf_of_authenticate (hp : s.issuer.authenticate header = .ok p) :
    s.loginOf header = s.loginFor p := by
  unfold loginOf Issuer.identify
  rw [hp]
  rcases p with _ | p
  · rfl
  · cases p <;> rfl

theorem authenticate_of_loginOf {login : String} (hlogin : s.loginOf header = .ok login) :
    s.issuer.authenticate header = .ok (some (.client login)) ∧
      s.accounts.contains login = true := by
  cases hp : s.issuer.authenticate header with
  | error e => simp [loginOf, Issuer.identify, hp] at hlogin
  | ok p =>
    rw [loginOf_of_authenticate hp] at hlogin
    unfold loginFor at hlogin
    split at hlogin
    · split_ifs at hlogin with hknown
      obtain rfl := Except.ok.inj hlogin
      exact ⟨rfl, hknown⟩
    · cases hlogin
    · cases hlogin

theorem mem_openSubscription {k : CallId} {c : Subscriber}
    (hc : c ∈ (s.openSubscription k header).2.subscribers) :
    c ∈ s.subscribers ∨ ∃ login, s.loginOf header = .ok login ∧ c = .admitted k login := by
  unfold openSubscription at hc
  cases hlogin : s.loginOf header with
  | error r =>
    rw [hlogin] at hc
    exact Or.inl hc
  | ok login =>
    simp only [hlogin] at hc
    split_ifs at hc
    · exact Or.inl hc
    · exact (List.mem_append.mp hc).imp_right fun hc => ⟨login, rfl, List.mem_singleton.mp hc⟩

end Server

theorem Accounts.contains_register {a a' : Accounts} {r : ClientRegistration} {login : String}
    (hr : a.register? r = some a') (hlogin : a.contains login = true) :
    a'.contains login = true := by
  unfold register? at hr
  split_ifs at hr
  obtain rfl := Option.some.inj hr
  unfold contains find? at hlogin ⊢
  rw [List.find?_append, Option.isSome_or, hlogin, Bool.true_or]

theorem Subscriber.login_control (c : Subscriber) (d : Directory) (r : SubscribeRequest) :
    (c.control d r).2.login = c.login := by
  unfold control
  split
  · rfl
  · split <;> rfl

namespace Host

variable {h : Host} {id : Uuid} {k : CallId}

/-- Only a registration touches the accounts. -/
theorem accounts_step {a : Action} (ha : ∀ r o, a ≠ .registerClient r o) :
    (h.step a).2.server.accounts = h.server.accounts := by
  cases a with
  | registerClient r o => exact absurd rfl (ha r o)
  | registerSensor r o =>
    simp only [step, act, Service.registerSensor, Server.registerSensor]
    split_ifs
    · rfl
    · split <;> rfl
  | openMeasurements header =>
    change (h.server.openMeasurements h.nextCall header).2.accounts = h.server.accounts
    unfold Server.openMeasurements
    repeat' split
    all_goals rfl
  | uploadMeasurement k u o =>
    simp only [step, act, Service.uploadMeasurement, Server.uploadMeasurement]
    split_ifs
    · rfl
    · cases u <;> simp only [Server.settle, Server.recordMeasurement, Server.release] <;>
        split <;> rfl
  | openSubscription header =>
    simp only [step, act, Service.openSubscription, Server.openSubscription]
    split
    · rfl
    · split_ifs <;> rfl
  | uploadControl k u =>
    simp only [step, act, Service.uploadControl, Server.uploadControl]
    split_ifs
    · rfl
    · cases u with
      | message r =>
        simp only [Server.settle, Server.control]
        split <;> rfl
      | _ => rfl
  | _ => rfl

theorem accounts_registerClient (r : ClientRegistration) (o : Occasion) :
    (h.step (.registerClient r o)).2.server.accounts =
      if r.login.isEmpty || r.password.isEmpty || r.email.isEmpty then h.server.accounts
      else (h.server.accounts.register? r).getD h.server.accounts := by
  simp only [step, act, Service.registerClient, Server.registerClient]
  split_ifs
  · rfl
  · cases h.server.accounts.register? r <;> rfl

/-- No account is ever closed. -/
theorem contains_step (a : Action) {login : String}
    (hlogin : h.server.accounts.contains login = true) :
    (h.step a).2.server.accounts.contains login = true := by
  by_cases ha : ∃ r o, a = .registerClient r o
  · obtain ⟨r, o, rfl⟩ := ha
    rw [accounts_registerClient]
    split_ifs
    · exact hlogin
    · cases hreg : h.server.accounts.register? r with
      | none => exact hlogin
      | some a => exact Accounts.contains_register hreg hlogin
  · rwa [accounts_step fun r o heq => ha ⟨r, o, heq⟩]

/-- A sensor is changed by what is opened under its token, or on a live call of its own. -/
theorem source_of_change? {a : Action} {c : Sensor.Change} (hc : h.change? a = some (id, c)) :
    (∃ header, a = .openMeasurements header ∧ h.server.sensorOf header = .ok id) ∨
    ∃ k u o, a = .uploadMeasurement k u o ∧ h.server.measuring.lookup k = some id := by
  have hcause := h.cause_of_change? hc
  generalize (h.step a).2.server.measuring = ms at hcause
  cases hcause with
  | accepted hid hs hon => exact Or.inl ⟨_, rfl, hid⟩
  | refused hid hs hon => exact Or.inl ⟨_, rfl, hid⟩
  | recorded hi => exact Or.inr ⟨_, _, _, rfl, hi⟩
  | ended hi hu => exact Or.inr ⟨_, _, _, rfl, hi⟩

theorem source_of_measuring {a : Action} {p : CallId × Uuid}
    (hp : p ∈ (h.step a).2.server.measuring) :
    p ∈ h.server.measuring ∨
    ∃ header, a = .openMeasurements header ∧ h.server.sensorOf header = .ok p.2 ∧
      p.1 = h.nextCall := by
  cases hc : h.change? a with
  | none =>
    rw [h.measuring_step_of_change?_eq_none hc] at hp
    exact Or.inl hp
  | some e =>
    obtain ⟨i, c⟩ := e
    have hcause := h.cause_of_change? hc
    generalize (h.step a).2.server.measuring = ms at hcause hp
    cases hcause with
    | accepted hid hs hon =>
      refine (List.mem_append.mp hp).imp_right fun hp => ?_
      rw [List.mem_singleton.mp hp]
      exact ⟨_, rfl, hid, rfl⟩
    | refused hid hs hon => exact Or.inl hp
    | recorded hi => exact Or.inl hp
    | ended hi hu => exact Or.inl (List.mem_filter.mp hp).1

theorem source_of_subscriber (hh : h.Sound) (ha : h.Attentive) {a : Action} {c : Subscriber}
    (hc : c ∈ (h.step a).2.server.subscribers) :
    (∃ b ∈ h.server.subscribers, c.call = b.call ∧ c.login = b.login) ∨
    ∃ header, a = .openSubscription header ∧ h.server.loginOf header = .ok c.login ∧
      c.call = h.nextCall := by
  rw [(settle_step hh ha a).2] at hc
  obtain ⟨b, hb, rfl⟩ := List.mem_map.mp hc
  rcases h.direct_cases a with hd | ⟨header, login, rfl, -⟩ | ⟨call, r, x, hx, -, hd⟩ |
    ⟨call, u, -, -, hd⟩
  · rw [hd] at hb
    exact Or.inl ⟨b, hb, rfl, rfl⟩
  · rcases Server.mem_openSubscription hb with hb | ⟨login, hlogin, rfl⟩
    · exact Or.inl ⟨b, hb, rfl, rfl⟩
    · exact Or.inr ⟨header, rfl, hlogin, rfl⟩
  · rw [hd] at hb
    obtain ⟨y, hy, rfl⟩ := List.mem_map.mp hb
    refine Or.inl ?_
    split_ifs
    · exact ⟨x, (mem_of_subscriber? hx).1, Subscriber.call_control .., Subscriber.login_control ..⟩
    · exact ⟨y, hy, rfl, rfl⟩
  · rw [hd] at hb
    exact Or.inl ⟨b, (List.mem_filter.mp hb).1, rfl, rfl⟩

/-- A header is checked before anything is done. -/
def serve (h : Host) (r : Request) : Outcome :=
  match h.server.issuer.authenticate r.header with
  | .error s => ⟨some s, none, [], h⟩
  | .ok _ => h.outcome r.action

@[simp] theorem serve_call (h : Host) (header : Option HeaderValue) (c : Call) :
    h.serve (.call header c) = h.request header c := rfl

theorem serve_cases (h : Host) (r : Request) :
    ((h.serve r).host = h ∧ (h.serve r).published = none) ∨ h.serve r = h.outcome r.action := by
  unfold serve
  split
  · exact Or.inl ⟨rfl, rfl⟩
  · exact Or.inr rfl

/-- The host after some requests. -/
def served (h : Host) (rs : List Request) : Host :=
  rs.foldl (fun h r => (h.serve r).host) h

@[simp] theorem served_append (h : Host) (rs ss : List Request) :
    h.served (rs ++ ss) = (h.served rs).served ss :=
  List.foldl_append

@[simp] theorem served_singleton (h : Host) (r : Request) : h.served [r] = (h.serve r).host := rfl

/-- Requests that are let through are a run. -/
theorem exists_after_eq_served (h : Host) (rs : List Request) : ∃ as, h.served rs = h.after as := by
  induction rs generalizing h with
  | nil => exact ⟨[], rfl⟩
  | cons r rs ih =>
    obtain ⟨as, has⟩ := ih (h.serve r).host
    rcases h.serve_cases r with ⟨hsame, -⟩ | hact
    · rw [hsame] at has
      exact ⟨as, (congrArg (·.served rs) hsame).trans has⟩
    · rw [hact] at has
      exact ⟨r.action :: as, (congrArg (·.host.served rs) hact).trans has⟩

theorem issuer_served (h : Host) (rs : List Request) :
    (h.served rs).server.issuer = h.server.issuer := by
  obtain ⟨as, has⟩ := h.exists_after_eq_served rs
  rw [has]
  exact after_keeps (P := fun x => x.server.issuer = h.server.issuer)
    (fun a hx => (issuer_step _ a).trans hx) rfl as

theorem nextCall_le_served (h : Host) (rs : List Request) : h.nextCall ≤ (h.served rs).nextCall := by
  obtain ⟨as, has⟩ := h.exists_after_eq_served rs
  rw [has]
  exact after_keeps (P := fun x => h.nextCall ≤ x.nextCall)
    (fun a hx => hx.trans (nextCall_le_step _ a)) le_rfl as

section Fresh

variable (issuer : Issuer) (historyCapacity eventBuffer : Nat) (rs : List Request)

theorem sound_served : ((fresh issuer historyCapacity eventBuffer).served rs).Sound := by
  obtain ⟨as, has⟩ := (fresh issuer historyCapacity eventBuffer).exists_after_eq_served rs
  rw [has]
  exact (sound_fresh issuer historyCapacity eventBuffer).after as

theorem attentive_served : ((fresh issuer historyCapacity eventBuffer).served rs).Attentive := by
  obtain ⟨as, has⟩ := (fresh issuer historyCapacity eventBuffer).exists_after_eq_served rs
  rw [has]
  exact (attentive_fresh issuer historyCapacity eventBuffer).after
    (sound_fresh issuer historyCapacity eventBuffer) as

end Fresh

/-- The request that took this number, when a run came to it. -/
def Numbered (h : Host) (rs : List Request) (k : CallId) (r : Request) : Prop :=
  ∃ before, before ++ [r] <+: rs ∧ (h.served before).nextCall = k ∧
    (h.served (before ++ [r])).nextCall = k + 1

namespace Numbered

variable {rs : List Request} {r r' : Request}

theorem append (hr : h.Numbered rs k r) (ss : List Request) : h.Numbered (rs ++ ss) k r := by
  obtain ⟨before, hbefore, hfrom, hto⟩ := hr
  exact ⟨before, hbefore.trans (List.prefix_append rs ss), hfrom, hto⟩

/-- A number that was taken is not given again. -/
theorem lt_of_prefix {before : List Request} (hbefore : before ++ [r] <+: rs)
    (hto : (h.served (before ++ [r])).nextCall = k + 1) : k < (h.served rs).nextCall := by
  obtain ⟨rest, rfl⟩ := hbefore
  have hle := nextCall_le_served (h.served (before ++ [r])) rest
  rw [hto] at hle
  rw [served_append]
  exact Nat.lt_of_succ_le hle

/-- No request that comes later finds a number that was taken. -/
theorem length_le {as bs : List Request} (has : as ++ [r] <+: rs) (hbs : bs ++ [r'] <+: rs)
    (hto : (h.served (as ++ [r])).nextCall = k + 1) (hfrom : (h.served bs).nextCall = k) :
    bs.length ≤ as.length := by
  by_contra hlt
  have hlen : (as ++ [r]).length ≤ bs.length := by
    rw [List.length_append, List.length_singleton]
    omega
  have hbefore : bs <+: rs := (List.prefix_append bs [r']).trans hbs
  have hk := lt_of_prefix (List.prefix_of_prefix_length_le has hbefore hlen) hto
  exact Nat.ne_of_gt hk hfrom

theorem unique (hr : h.Numbered rs k r) (hr' : h.Numbered rs k r') : r = r' := by
  obtain ⟨before, hbefore, hfrom, hto⟩ := hr
  obtain ⟨before', hbefore', hfrom', hto'⟩ := hr'
  have hle := length_le hbefore hbefore' hto hfrom'
  have hge := length_le hbefore' hbefore hto' hfrom
  have hlen : (before ++ [r]).length = (before' ++ [r']).length := by
    rw [List.length_append, List.length_append, List.length_singleton, List.length_singleton]
    omega
  have heq := (List.prefix_of_prefix_length_le hbefore hbefore' hlen.le).eq_of_length hlen
  exact List.singleton_inj.mp (List.append_inj_right' heq rfl)

end Numbered

/-- Every open call was opened under a token that permits it. -/
structure Authorized (h : Host) (rs : List Request) : Prop where
  measuring : ∀ p ∈ (h.served rs).server.measuring, ∃ header,
    h.Numbered rs p.1 (.call header .measurements) ∧
      h.server.issuer.authenticate header = .ok (some (.sensor p.2))
  subscribers : ∀ c ∈ (h.served rs).server.subscribers, ∃ header,
    h.Numbered rs c.call (.call header .subscription) ∧
      h.server.issuer.authenticate header = .ok (some (.client c.login)) ∧
      (h.served rs).server.accounts.contains c.login = true

theorem numbered_concat {rs : List Request} {r : Request}
    (hr : (h.served rs).serve r = (h.served rs).outcome r.action)
    (hnext : ((h.served rs).step r.action).2.nextCall = (h.served rs).nextCall + 1) :
    h.Numbered (rs ++ [r]) (h.served rs).nextCall r := by
  refine ⟨rs, List.prefix_rfl, rfl, ?_⟩
  rw [served_append, served_singleton, hr]
  exact hnext

/-- A request that does nothing opens no call. -/
theorem Authorized.of_served_eq {rs ss : List Request} (hrs : h.Authorized rs)
    (hsame : h.served (rs ++ ss) = h.served rs) : h.Authorized (rs ++ ss) where
  measuring := by
    rw [hsame]
    intro p hp
    obtain ⟨header, hnum, hauth⟩ := hrs.measuring p hp
    exact ⟨header, hnum.append ss, hauth⟩
  subscribers := by
    rw [hsame]
    intro c hc
    obtain ⟨header, hnum, hauth⟩ := hrs.subscribers c hc
    exact ⟨header, hnum.append ss, hauth⟩

theorem Authorized.concat {rs : List Request} (hrs : h.Authorized rs) (hh : (h.served rs).Sound)
    (ha : (h.served rs).Attentive) (r : Request) : h.Authorized (rs ++ [r]) := by
  have hissuer := h.issuer_served rs
  rcases (h.served rs).serve_cases r with ⟨hsame, -⟩ | hact
  · apply hrs.of_served_eq
    rw [served_append, served_singleton, hsame]
  · have hafter : h.served (rs ++ [r]) = ((h.served rs).step r.action).2 := by
      rw [served_append, served_singleton, hact]
      rfl
    constructor
    · rw [hafter]
      intro p hp
      rcases source_of_measuring hp with hp | ⟨header, hr, hid, hk⟩
      · obtain ⟨header, hnum, hauth⟩ := hrs.measuring p hp
        exact ⟨header, hnum.append [r], hauth⟩
      · have hnext := numbered_concat hact (by rw [nextCall_step, hr])
        have hauth := authenticate_of_sensorOf hid
        rw [Request.eq_of_action_openMeasurements hr] at hnext
        rw [hissuer] at hauth
        rw [hk, Request.eq_of_action_openMeasurements hr]
        exact ⟨header, hnext, hauth⟩
    · rw [hafter]
      intro c hc
      rcases source_of_subscriber hh ha hc with ⟨b, hb, hcall, hlogin⟩ | ⟨header, hr, hlogin, hk⟩
      · obtain ⟨header, hnum, hauth, hknown⟩ := hrs.subscribers b hb
        rw [hcall, hlogin]
        exact ⟨header, hnum.append [r], hauth, contains_step r.action hknown⟩
      · have hnext := numbered_concat hact (by rw [nextCall_step, hr])
        obtain ⟨hauth, hknown⟩ := Server.authenticate_of_loginOf hlogin
        rw [Request.eq_of_action_openSubscription hr] at hnext
        rw [hissuer] at hauth
        have hstill := contains_step r.action hknown
        rw [Request.eq_of_action_openSubscription hr] at hstill ⊢
        rw [hk]
        exact ⟨header, hnext, hauth, hstill⟩

theorem authorized_served (issuer : Issuer) (historyCapacity eventBuffer : Nat)
    (rs : List Request) : (fresh issuer historyCapacity eventBuffer).Authorized rs := by
  induction rs using List.reverseRecOn with
  | nil =>
    constructor
    · intro p hp
      cases hp
    · intro c hc
      cases hc
  | append_singleton rs r ih =>
    exact ih.concat (sound_served issuer historyCapacity eventBuffer rs)
      (attentive_served issuer historyCapacity eventBuffer rs) r

/-- Something happens to a registered sensor: it is no longer what it was, or publishes. -/
def Affects (h : Host) (r : Request) (id : Uuid) : Prop :=
  ∃ s, h.server.directory.get? id = some s ∧
    ((h.serve r).host.server.directory.get? id ≠ some s ∨
      ∃ e, (h.serve r).published = some (id, e))

theorem change?_of_published (hh : h.Sound) {a : Action} {e : SensorEvent}
    (he : h.published a = some (id, e)) : ∃ c, h.change? a = some (id, c) ∧ e = c.event id := by
  rw [hh.published_eq] at he
  obtain ⟨⟨i, c⟩, hc, heq⟩ := Option.map_eq_some_iff.mp he
  obtain ⟨rfl, rfl⟩ := Prod.mk.inj heq
  exact ⟨c, hc, rfl⟩

theorem change?_of_affects (hh : h.Sound) {r : Request} (hr : h.Affects r id) :
    ∃ c, h.change? r.action = some (id, c) := by
  obtain ⟨s, hs, hr⟩ := hr
  rcases h.serve_cases r with ⟨hsame, hquiet⟩ | hact
  · rw [hsame, hquiet] at hr
    rcases hr with hne | ⟨e, he⟩
    · exact absurd hs hne
    · cases he
  · rw [hact] at hr
    rcases hr with hne | ⟨e, he⟩
    · have hsome : (h.server.directory.get? id).isSome := by
        simp [hs]
      obtain ⟨s', hs'⟩ := Option.isSome_iff_exists.mp (hh.isSome_get?_step r.action hsome)
      rcases hh.get?_step hs' with ⟨-, hnone, -⟩ | ⟨t, ht, hs''⟩
      · rw [hs] at hnone
        cases hnone
      · obtain rfl := Option.some.inj (hs.symm.trans ht)
        cases hc : h.change? r.action with
        | none =>
          rw [hc] at hs''
          exact absurd (hs'.trans (congrArg some hs'')) hne
        | some e =>
          obtain ⟨i, c⟩ := e
          rw [hc] at hs''
          dsimp only at hs''
          split_ifs at hs'' with hi
          · exact ⟨c, by rw [hi]⟩
          · exact absurd (hs'.trans (congrArg some hs'')) hne
    · obtain ⟨c, hc, -⟩ := change?_of_published hh he
      exact ⟨c, hc⟩

/-- Whatever is published on a sensor bears its id. -/
theorem sensor?_of_mem_log (hh : h.Sound) (as : List Action) (id : Uuid) :
    ∀ e ∈ h.log as id, e.frame.sensor? = some id.text := by
  induction as generalizing h with
  | nil => simp
  | cons a as ih =>
    intro e he
    rw [log_cons hh] at he
    rcases List.mem_append.mp he with he | he
    · cases hc : h.change? a with
      | none =>
        rw [hc] at he
        cases he
      | some x =>
        rw [hc] at he
        dsimp only at he
        split_ifs at he with hi
        · rw [List.mem_singleton.mp he, ← hi]
          exact sensor?_event_of_change? hc
        · cases he
    · exact ih (hh.step a) e he

theorem sensor?_of_published (hh : h.Sound) {r : Request} {e : SensorEvent}
    (he : (h.serve r).published = some (id, e)) : e.frame.sensor? = some id.text := by
  rcases h.serve_cases r with ⟨-, hquiet⟩ | hact
  · rw [hquiet] at he
    cases he
  · rw [hact] at he
    obtain ⟨c, hc, rfl⟩ := change?_of_published hh he
    exact sensor?_event_of_change? hc

/-- What a sensor keeps bears its id. -/
theorem kept_served (issuer : Issuer) (historyCapacity eventBuffer : Nat) (rs : List Request)
    {s : Sensor} (hs : ((fresh issuer historyCapacity eventBuffer).served rs).server.directory.get?
      id = some s) :
    (∀ x ∈ s.history.kept, x.sensorId = id.text) ∧
      ∀ e ∈ s.feed.kept, e.frame.sensor? = some id.text := by
  obtain ⟨as, has⟩ := (fresh issuer historyCapacity eventBuffer).exists_after_eq_served rs
  rw [has] at hs
  have hlog := sensor?_of_mem_log (sound_fresh issuer historyCapacity eventBuffer) as id
  constructor
  · intro x hx
    rw [history_after issuer historyCapacity eventBuffer as hs] at hx
    have hmem := SensorEvent.mem_measurements_iff.mp ((List.drop_suffix _ _).subset hx)
    exact Option.some.inj (hlog _ hmem)
  · intro e he
    have hlogged := (logged_fresh issuer historyCapacity eventBuffer).after
      (sound_fresh issuer historyCapacity eventBuffer) as
    exact hlog e ((hlogged.kept hs).subset he)

/-- The call is refused, and nothing comes of it. -/
def Refuses (h : Host) (header : Option HeaderValue) (c : Call) (f : Refusal) : Prop :=
  (h.serve (.call header c)).refusal? = some f.status ∧
    h.Untouched f.status (h.serve (.call header c))

variable {header : Option HeaderValue} {f : Refusal} {p : Option Principal}

theorem refuses_measurements (hh : h.Sound) (ha : h.Attentive)
    (hp : h.server.issuer.authenticate header = .ok p) (hf : Server.sensorFor p = .error f) :
    h.Refuses header .measurements f := by
  have hsensor := (Server.sensorOf_of_authenticate hp).trans hf
  have hrefusal : (h.serve (.call header .measurements)).refusal? = some f.status := by
    rw [serve_call, request_eq_outcome hp]
    change (h.step (.openMeasurements header)).1.refusal? = _
    rw [refusal?_openMeasurements, Server.openMeasurements, hsensor]
  refine ⟨hrefusal, ?_⟩
  rcases request_refused hh ha .measurements hrefusal with ⟨-, huntouched⟩ | ⟨id, hi, -⟩
  · exact huntouched
  · cases hsensor.symm.trans hi.sensor

theorem refuses_subscription (hh : h.Sound) (ha : h.Attentive)
    (hp : h.server.issuer.authenticate header = .ok p) (hf : h.server.loginFor p = .error f) :
    h.Refuses header .subscription f := by
  have hlogin := (Server.loginOf_of_authenticate hp).trans hf
  have hrefusal : (h.serve (.call header .subscription)).refusal? = some f.status := by
    rw [serve_call, request_eq_outcome hp]
    simp only [outcome, Call.action, step, act, Service.openSubscription, Moment.refusal?,
      Server.openSubscription, hlogin]
    rfl
  refine ⟨hrefusal, ?_⟩
  rcases request_refused hh ha .subscription hrefusal with ⟨-, huntouched⟩ | ⟨id, hi, -⟩
  · exact huntouched
  · cases hi.call_eq

/-- A subscription that is accepted is a client's. -/
theorem authenticate_of_subscribed
    (haccepted : (h.serve (.call header .subscription)).refusal? = none) :
    ∃ login, h.server.issuer.authenticate header = .ok (some (.client login)) ∧
      h.server.accounts.contains login = true := by
  rw [serve_call] at haccepted
  cases hp : h.server.issuer.authenticate header with
  | error s =>
    rw [request, hp] at haccepted
    cases haccepted
  | ok p =>
    rw [request_eq_outcome hp] at haccepted
    cases hlogin : h.server.loginOf header with
    | error f =>
      simp only [outcome, Call.action, step, act, Service.openSubscription, Moment.refusal?,
        Server.openSubscription, hlogin] at haccepted
      cases haccepted
    | ok login =>
      have hclient := Server.authenticate_of_loginOf hlogin
      rw [hp] at hclient
      exact ⟨login, hclient⟩

/-- What every call that needs no token leaves. -/
structure Confined (h : Host) (x : Outcome) : Prop where
  sensors : ∀ id s, h.server.directory.get? id = some s → x.host.server.directory.get? id = some s
  measuring : x.host.server.measuring = h.server.measuring
  subscribers : x.host.server.subscribers = h.server.subscribers
  published : x.published = none

theorem confined_of_server_eq {x : Outcome} (hserver : x.host.server = h.server)
    (hquiet : x.published = none) : h.Confined x where
  sensors id s hs := by rwa [hserver]
  measuring := by rw [hserver]
  subscribers := by rw [hserver]
  published := hquiet

theorem refuses_measurements_without_header (hh : h.Sound) (ha : h.Attentive) :
    h.Refuses none .measurements .unauthenticated :=
  refuses_measurements hh ha rfl rfl

theorem refuses_subscription_without_header (hh : h.Sound) (ha : h.Attentive) :
    h.Refuses none .subscription .unauthenticated :=
  refuses_subscription hh ha rfl rfl

theorem published_outcome_of_change? (hh : h.Sound) {a : Action} (hc : h.change? a = none) :
    (h.outcome a).published = none := by
  change h.published a = none
  rw [hh.published_eq, hc]
  rfl

theorem confined_without_header (hh : h.Sound) (ha : h.Attentive) (c : Call) :
    h.Confined (h.serve (.call none c)) := by
  cases c with
  | registerSensor r o =>
    change h.Confined (h.outcome (.registerSensor r o))
    refine ⟨?_, h.measuring_step_of_change?_eq_none rfl, ?_, published_outcome_of_change? hh rfl⟩
    · intro id s hs
      rcases h.directory_step (.registerSensor r o) with ⟨-, hd⟩ | ⟨r', o', -, hd⟩ | ⟨_, _, hc, -⟩
      · exact (congrArg (·.get? id) hd).trans hs
      · refine (hh.directory.get?_register hd).trans ?_
        rw [if_neg, hs]
        rintro rfl
        have hnone := hh.directory.get?_of_register hd
        rw [hs] at hnone
        cases hnone
      · cases hc
    · simp only [outcome, step, act, Service.registerSensor, Server.registerSensor]
      split_ifs
      · rfl
      · split <;> rfl
  | registerClient r o =>
    change h.Confined (h.outcome (.registerClient r o))
    have hsame : (h.step (.registerClient r o)).2.server.directory = h.server.directory ∧
        (h.step (.registerClient r o)).2.server.subscribers = h.server.subscribers := by
      simp only [step, act, Service.registerClient, Server.registerClient]
      split_ifs
      · exact ⟨rfl, rfl⟩
      · split <;> exact ⟨rfl, rfl⟩
    exact ⟨fun id s hs => (congrArg (·.get? id) hsame.1).trans hs,
      h.measuring_step_of_change?_eq_none rfl, hsame.2,
      published_outcome_of_change? hh rfl⟩
  | logIn login password o =>
    change h.Confined (h.outcome (.logIn login password o))
    exact confined_of_server_eq rfl (published_outcome_of_eq rfl)
  | history r =>
    change h.Confined (h.outcome (.history r))
    exact confined_of_server_eq rfl (published_outcome_of_eq rfl)
  | measurements =>
    obtain ⟨-, huntouched⟩ := refuses_measurements_without_header hh ha
    exact confined_of_server_eq huntouched.server huntouched.published
  | subscription =>
    obtain ⟨-, huntouched⟩ := refuses_subscription_without_header hh ha
    exact confined_of_server_eq huntouched.server huntouched.published

/-- Whatever is asked for under whatever headers, a sensor is only affected by what happens on calls
under its own token, what it keeps and publishes bears its id, only registered clients subscribe,
without a header no call stays open, and neither kind of token opens the calls of the other. -/
theorem requests_are_authorized (issuer : Issuer) (historyCapacity eventBuffer : Nat)
    (rs : List Request) :
    let start := fresh issuer historyCapacity eventBuffer
    let h := start.served rs
    (∀ r id, h.Affects r id → ∃ header,
      (r = .call header .measurements ∨ ∃ k u o, r = .measurement k u o ∧
        start.Numbered rs k (.call header .measurements)) ∧
      issuer.authenticate header = .ok (some (.sensor id))) ∧
    (∀ k r r', start.Numbered rs k r → start.Numbered rs k r' → r = r') ∧
    (∀ id s, h.server.directory.get? id = some s →
      (∀ x ∈ s.history.kept, x.sensorId = id.text) ∧
      ∀ e ∈ s.feed.kept, e.frame.sensor? = some id.text) ∧
    (∀ r id e, (h.serve r).published = some (id, e) → e.frame.sensor? = some id.text) ∧
    (∀ header, (h.serve (.call header .subscription)).refusal? = none → ∃ login,
      issuer.authenticate header = .ok (some (.client login)) ∧
        h.server.accounts.contains login = true) ∧
    (∀ c ∈ h.server.subscribers, ∃ header,
      start.Numbered rs c.call (.call header .subscription) ∧
        issuer.authenticate header = .ok (some (.client c.login)) ∧
        h.server.accounts.contains c.login = true) ∧
    (∀ c, h.Confined (h.serve (.call none c))) ∧
    (∀ tags, (h.serve (.roster none tags)).host = h) ∧
    h.Refuses none .measurements .unauthenticated ∧
    h.Refuses none .subscription .unauthenticated ∧
    (∀ header login, issuer.authenticate header = .ok (some (.client login)) →
      h.Refuses header .measurements .notASensor) ∧
    (∀ header id, issuer.authenticate header = .ok (some (.sensor id)) →
      h.Refuses header .subscription .notAClient) ∧
    ∀ p t, issuer.authenticate (issuer.presented p t) = .ok (some p) := by
  intro start h
  have hh : h.Sound := sound_served issuer historyCapacity eventBuffer rs
  have ha : h.Attentive := attentive_served issuer historyCapacity eventBuffer rs
  have hauthorized := authorized_served issuer historyCapacity eventBuffer rs
  have hissuer : h.server.issuer = issuer := start.issuer_served rs
  refine ⟨?_, fun k r r' hr hr' => hr.unique hr',
    fun id s hs => kept_served issuer historyCapacity eventBuffer rs hs,
    fun r id e he => sensor?_of_published hh he, fun header haccepted => ?_, hauthorized.subscribers,
    confined_without_header hh ha, fun tags => rfl, refuses_measurements_without_header hh ha,
    refuses_subscription_without_header hh ha, fun header login hp => ?_, fun header id hp => ?_,
    fun p t => Issuer.identify_eq_ok_iff.mp (issuer.identify_presented p t)⟩
  · intro r id hr
    obtain ⟨c, hc⟩ := change?_of_affects hh hr
    rcases source_of_change? hc with ⟨header, haction, hid⟩ | ⟨k, u, o, haction, hk⟩
    · have hauth := authenticate_of_sensorOf hid
      rw [hissuer] at hauth
      exact ⟨header, Or.inl (Request.eq_of_action_openMeasurements haction), hauth⟩
    · obtain ⟨header, hnum, hauth⟩ :=
        hauthorized.measuring _ (hh.lookup_measuring_iff.mp hk)
      exact ⟨header,
        Or.inr ⟨k, u, o, Request.eq_of_action_uploadMeasurement haction, hnum⟩, hauth⟩
  · have hclient := authenticate_of_subscribed haccepted
    rwa [hissuer] at hclient
  · rw [← hissuer] at hp
    exact refuses_measurements hh ha hp rfl
  · rw [← hissuer] at hp
    exact refuses_subscription hh ha hp rfl

theorem refusal?_of_admits (hp : h.server.issuer.authenticate header = .ok p)
    (hadmits : h.admits header = true) :
    (h.serve (.call header .subscription)).refusal? = none := by
  rw [serve_call, request_eq_outcome hp]
  unfold admits at hadmits
  simp only [outcome, Call.action, step, act, Service.openSubscription, Moment.refusal?]
  cases hanswer : (h.server.openSubscription h.nextCall header).1 with
  | error f =>
    rw [hanswer] at hadmits
    cases hadmits
  | ok _ => rfl

/-- The calls of a sensor and of a client can both be opened, whatever the client calls itself. -/
theorem both_open (hh : h.Sound) {login : String}
    (hlogin : h.server.accounts.contains login = true) (hroom : h.server.directory.eventBuffer ≠ 0)
    (hqueue : h.server.directory.eventBuffer ≤ Server.greatestQueue)
    (hregistered : (h.server.directory.get? id).isSome) (hstatus : h.storedStatus id ≠ .online)
    (t : Instant) (m : MeasurementRequest) (o : Occasion) :
    let sensor := h.server.issuer.presented (.sensor id) t
    let client := h.server.issuer.presented (.client login) t
    (h.serve (.call client .subscription)).refusal? = none ∧
      (h.served [.call sensor .measurements]).Affects
        (.measurement h.nextCall (.message m) o) id := by
  intro sensor client
  have hsensor : h.server.issuer.identify sensor = .ok (.sensor id) :=
    Issuer.identify_presented _ _ t
  have hclient : h.server.issuer.identify client = .ok (.client login) :=
    Issuer.identify_presented _ _ t
  -- of the headers only the principals matter
  generalize sensor = sensor at *
  generalize client = client at *
  constructor
  · exact refusal?_of_admits (Issuer.identify_eq_ok_iff.mp hclient)
      (admits_of_identify hclient hlogin hroom hqueue)
  · have hid : h.server.sensorOf sensor = .ok id := by
      unfold Server.sensorOf
      rw [hsensor]
    have hopened : h.served [.call sensor .measurements] =
        (h.step (.openMeasurements sensor)).2 := by
      rw [served_singleton, serve_call, request_eq_outcome (authenticate_of_sensorOf hid)]
      rfl
    obtain ⟨s, hs⟩ := Option.isSome_iff_exists.mp
      (hh.isSome_get?_step (.openMeasurements sensor) hregistered)
    have hk := lookup_after_accepted hh hid hregistered hstatus
    rw [hopened]
    refine ⟨s, hs, Or.inr ⟨.measured (Server.measurementOf id m o.now), ?_⟩⟩
    change published _ (.uploadMeasurement h.nextCall (.message m) o) = _
    rw [(hh.step _).published_eq, change?_upload hk]
    rfl

/-- A sensor registers, and then a client whose login is the id of the sensor. -/
def namesakes : List Request :=
  [.call none (.registerSensor ⟨"north", "roof", []⟩ ⟨epoch, ⟨5⟩⟩),
    .call none (.registerClient ⟨Uuid.text ⟨5⟩, "pw", "e"⟩ ⟨epoch, ⟨6⟩⟩)]

theorem both_open_among_namesakes :
    let sensor := impatientIssuer.presented (.sensor ⟨5⟩) epoch
    let client := impatientIssuer.presented (.client (Uuid.text ⟨5⟩)) epoch
    let h := (fresh impatientIssuer 2 2).served namesakes
    (h.serve (.call client .subscription)).refusal? = none ∧
      (h.served [.call sensor .measurements]).Affects
        (.measurement 0 (.message oddRequest) ⟨epoch, ⟨7⟩⟩) ⟨5⟩ := by
  intro sensor client h
  have hh : h.Sound := sound_served impatientIssuer 2 2 namesakes
  have hlogin : h.server.accounts.contains (Uuid.text ⟨5⟩) = true := rfl
  have hregistered : (h.server.directory.get? ⟨5⟩).isSome := rfl
  have hstatus : h.storedStatus ⟨5⟩ = .offline := rfl
  exact both_open hh hlogin (show 2 ≠ 0 by decide) (show 2 ≤ Server.greatestQueue by decide)
    hregistered (by rw [hstatus]; decide) epoch oddRequest ⟨epoch, ⟨7⟩⟩

theorem requests_are_authorized_among_namesakes :
    let sensor := impatientIssuer.presented (.sensor ⟨5⟩) epoch
    let client := impatientIssuer.presented (.client (Uuid.text ⟨5⟩)) epoch
    let start := fresh impatientIssuer 2 2
    let rs := namesakes ++ [.call sensor .measurements]
    ((start.served namesakes).serve (.call client .subscription)).refusal? = none ∧
      (start.served namesakes).Refuses client .measurements .notASensor ∧
      (start.served rs).Affects (.measurement 0 (.message oddRequest) ⟨epoch, ⟨7⟩⟩) ⟨5⟩ ∧
      ∃ header, start.Numbered rs 0 (.call header .measurements) ∧
        impatientIssuer.authenticate header = .ok (some (.sensor ⟨5⟩)) := by
  intro sensor client start rs
  obtain ⟨hsubscribed, haffects⟩ := both_open_among_namesakes
  obtain ⟨-, -, -, -, -, -, -, -, -, -, hrefuses, -, hpresented⟩ :=
    requests_are_authorized impatientIssuer 2 2 namesakes
  rw [← served_append] at haffects
  obtain ⟨header, hr | ⟨k, u, o, hr, hnum⟩, hauth⟩ :=
    (requests_are_authorized impatientIssuer 2 2 rs).1 _ _ haffects
  · cases hr
  · obtain ⟨rfl, -, -⟩ := Request.measurement.inj hr
    exact ⟨hsubscribed, hrefuses client _ (hpresented _ epoch), haffects, header, hnum, hauth⟩

end Host
end SensorRelay
