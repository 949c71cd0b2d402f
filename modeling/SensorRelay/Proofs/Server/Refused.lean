import SensorRelay.Proofs.Server.Exclusion
import SensorRelay.Proofs.Server.Subscription

/-!
# Refused calls

A call that is refused leaves the server as it was and tells nobody, whatever it was refused for.
There is one exception: an attempt to measure for a sensor that is stored as online does to the
sensor what an abandoned call does, and so the attempt is heard by everyone who follows it.
-/

namespace SensorRelay

open Auth Rpc

/-- The calls that can be refused, without the header that each may carry. -/
inductive Call
  | registerSensor (r : SensorRegistration) (o : Occasion)
  | registerClient (r : ClientRegistration) (o : Occasion)
  | logIn (login password : String) (o : Occasion)
  | history (r : HistoryRequest)
  | measurements
  | subscription

namespace Call

def action (header : Option HeaderValue) : Call → Action
  | registerSensor r o => .registerSensor r o
  | registerClient r o => .registerClient r o
  | logIn login password o => .logIn login password o
  | history r => .history r
  | measurements => .openMeasurements header
  | subscription => .openSubscription header

end Call

/-- The status in place of an answer. -/
def refusalOf {α : Type} : Except Status α → Option Status
  | .ok _ => none
  | .error s => some s

def Signal.refusal? (k : CallId) : Signal → Option Status
  | .answered call r => if call = k then refusalOf r else none
  | _ => none

/-- The status that a call is refused with: in its reply, or soon after it on its own number. -/
def Moment.refusal? (m : Moment) : Option Status :=
  match m.reply with
  | .nothing => none
  | .sensor r => refusalOf r
  | .token r => refusalOf r
  | .roster r => refusalOf r
  | .history r => refusalOf r
  | .measurements k => m.signals.findSome? (·.refusal? k)
  | .subscription _ r => refusalOf r

/-- What comes of a call. -/
structure Outcome where
  refusal? : Option Status
  published : Option (Uuid × SensorEvent)
  signals : List Signal
  host : Host

namespace Host

def outcome (h : Host) (a : Action) : Outcome :=
  let x := h.step a
  ⟨x.1.refusal?, x.1.published, x.1.signals, x.2⟩

/-- A header is checked before the call that carries it. -/
def request (h : Host) (header : Option HeaderValue) (c : Call) : Outcome :=
  match h.server.issuer.authenticate header with
  | .error s => ⟨some s, none, [], h⟩
  | .ok _ => h.outcome (c.action header)

/-- An attempt to measure for a sensor that is stored as online. -/
structure Interrupts (h : Host) (header : Option HeaderValue) (c : Call) (id : Uuid) : Prop where
  call_eq : c = .measurements
  sensor : h.server.sensorOf header = .ok id
  online : h.storedStatus id = .online

variable {h : Host} {status : Status} {header : Option HeaderValue} {id : Uuid}

theorem refusalOf_eq_some_iff {α : Type} {r : Except Status α} :
    refusalOf r = some status ↔ r = .error status := by
  cases r <;> simp [refusalOf]

theorem findSome?_refusal?_deliveries (k : CallId) (d : Directory) (cs : List Subscriber) :
    (deliveries d cs).findSome? (·.refusal? k) = none := by
  rw [List.findSome?_eq_none_iff]
  intro x hx
  obtain ⟨c, -, hx⟩ := List.mem_flatMap.mp hx
  obtain ⟨e, -, rfl⟩ := List.mem_map.mp hx
  rfl

theorem registerSensor_refused {r : SensorRegistration} {o : Occasion} {f : Refusal}
    (hr : (h.server.registerSensor r o).1 = .error f) :
    (h.server.registerSensor r o).2 = h.server := by
  unfold Server.registerSensor at hr ⊢
  split_ifs at hr ⊢
  · rfl
  · cases hreg : h.server.directory.register o.freshId r with
    | ok d => simp [hreg] at hr
    | error e => cases e <;> rfl

theorem refusal?_registerSensor_blank {r : SensorRegistration} (o : Occasion)
    (hr : ((Text.trim r.name).isEmpty || (Text.trim r.location).isEmpty) = true) :
    (h.outcome (.registerSensor r o)).refusal? = some Refusal.sensorDetailsMissing.status := by
  have hblank : h.server.registerSensor r o = (.error .sensorDetailsMissing, h.server) := by
    unfold Server.registerSensor
    rw [if_pos hr]
  simp only [outcome, step, act, Service.registerSensor, Moment.refusal?, hblank]
  rfl

theorem registerClient_refused {r : ClientRegistration} {o : Occasion} {f : Refusal}
    (hr : (h.server.registerClient r o).1 = .error f) :
    (h.server.registerClient r o).2 = h.server := by
  unfold Server.registerClient at hr ⊢
  split_ifs at hr ⊢
  · rfl
  · cases hreg : h.server.accounts.register? r with
    | none => rfl
    | some a => simp [hreg] at hr

theorem openSubscription_refused {f : Refusal}
    (hr : (h.server.openSubscription h.nextCall header).1 = .error f) :
    (h.server.openSubscription h.nextCall header).2 = h.server := by
  unfold Server.openSubscription at hr ⊢
  cases hlogin : h.server.loginOf header with
  | error r => rfl
  | ok login =>
    simp only [hlogin] at hr ⊢
    split_ifs at hr ⊢
    rfl

/-- An attempt to measure is refused before any sensor is found, or by the sensor itself. -/
theorem openMeasurements_refused {f : Refusal}
    (hr : (h.server.openMeasurements h.nextCall header).1 = .error f) :
    ((∀ id, ¬ h.Interrupts header .measurements id) ∧
      (h.server.openMeasurements h.nextCall header).2 = h.server) ∨
    ∃ id, h.Interrupts header .measurements id ∧ f = .sensorUnavailable ∧
      (h.server.openMeasurements h.nextCall header).2 =
        h.server.changeSensor id (·.goOffline .unknown) := by
  unfold Server.openMeasurements at hr ⊢
  cases hid : h.server.sensorOf header with
  | error r =>
    refine Or.inl ⟨fun id hi => ?_, rfl⟩
    rw [hi.sensor] at hid
    cases hid
  | ok id =>
    cases hs : h.server.directory.get? id with
    | none =>
      refine Or.inl ⟨fun j hj => ?_, by simp [hs]⟩
      have hsensor := hj.sensor
      rw [hid] at hsensor
      obtain rfl := Except.ok.inj hsensor
      obtain ⟨s, hs', -⟩ := registered_of_storedStatus hj.online
      rw [hs] at hs'
      cases hs'
    | some s =>
      by_cases hon : s.status = .online
      · refine Or.inr ⟨id, ⟨rfl, hid, by simp [storedStatus, hs, hon]⟩, ?_, ?_⟩
        · simp [hid, hs, Sensor.goOnline?_eq, hon] at hr
          exact hr.symm
        · simp [hs, Sensor.goOnline?_eq, hon]
      · simp [hid, hs, Sensor.goOnline?_eq, hon] at hr

theorem statusOf_eq_error_iff {α : Type} {r : Except Refusal α} :
    Server.statusOf r = .error status ↔ ∃ f, r = .error f ∧ f.status = status := by
  cases r <;> simp [Server.statusOf]

/-- The refusal of an attempt is the one answer that the attempt itself gives. -/
theorem refusal?_openMeasurements (h : Host) (header : Option HeaderValue) :
    (h.step (.openMeasurements header)).1.refusal? =
      match (h.server.openMeasurements h.nextCall header).1 with
      | .ok _ => none
      | .error f => some f.status := by
  simp only [Moment.refusal?, step, act, Service.openMeasurements, settle_eq,
    List.findSome?_append, findSome?_refusal?_deliveries, Option.or_none]
  cases (h.server.openMeasurements h.nextCall header).1 with
  | ok _ => rfl
  | error f => simp [Signal.refusal?, refusalOf]

theorem signals_openMeasurements (h : Host) (header : Option HeaderValue) :
    (h.step (.openMeasurements header)).1.signals =
      (match (h.server.openMeasurements h.nextCall header).1 with
        | .ok _ => []
        | .error f => [.answered h.nextCall (.error f.status)]) ++
      deliveries (h.server.openMeasurements h.nextCall header).2.directory
        (h.server.openMeasurements h.nextCall header).2.subscribers := rfl

theorem server_openMeasurements (h : Host) (header : Option HeaderValue) :
    (h.step (.openMeasurements header)).2.server =
      (h.server.openMeasurements h.nextCall header).2.deliver.2 := rfl

/-- Nothing is handed out and nobody moves on while everyone has read everything. -/
theorem Attentive.deliver_eq (ha : h.Attentive) : h.server.deliver.2 = h.server := by
  unfold Server.deliver
  rw [map_caughtUp_eq ha.current]

/-- What a refusal leaves: everything as it was, and no word to anyone but the caller. -/
structure Untouched (h : Host) (status : Status) (x : Outcome) : Prop where
  server : x.host.server = h.server
  published : x.published = none
  signals : ∀ y ∈ x.signals, y = .answered h.nextCall (.error status)

/-- What an attempt leaves that a sensor itself refuses: the sensor is taken offline, and whoever
follows it is told. -/
structure Interrupted (h : Host) (id : Uuid) (status : Status) (x : Outcome) : Prop where
  status_eq : status = Refusal.sensorUnavailable.status
  server : x.host.server = (h.server.changeSensor id (·.goOffline .unknown)).deliver.2
  stored : x.host.storedStatus id = .offline
  published : x.published = some (id, .statusChanged id.text .unknown)
  heard : ∀ k f, h.followed? k = some f → heard k x.signals =
    if id ∈ f then [.frame k (some (SensorEvent.statusChanged id.text .unknown).frame)] else []

theorem published_outcome_of_eq {a : Action} (hserver : (h.step a).2.server = h.server) :
    (h.outcome a).published = none := by
  change (h.step a).2.server.directory.publishedSince h.server.directory = none
  rw [hserver]
  exact h.server.directory.publishedSince_self

theorem untouched_of_eq {a : Action} (hserver : (h.step a).2.server = h.server)
    (hsignals : (h.step a).1.signals = []) : h.Untouched status (h.outcome a) where
  server := hserver
  published := published_outcome_of_eq hserver
  signals y hy := by
    change y ∈ (h.step a).1.signals at hy
    rw [hsignals] at hy
    cases hy

/-- A refused attempt to measure. -/
theorem measurements_refused (hh : h.Sound) (ha : h.Attentive)
    (hr : (h.outcome (.openMeasurements header)).refusal? = some status) :
    ((∀ id, ¬ h.Interrupts header .measurements id) ∧
      h.Untouched status (h.outcome (.openMeasurements header))) ∨
    ∃ id, h.Interrupts header .measurements id ∧
      h.Interrupted id status (h.outcome (.openMeasurements header)) := by
  change (h.step (.openMeasurements header)).1.refusal? = _ at hr
  rw [refusal?_openMeasurements] at hr
  cases hf : (h.server.openMeasurements h.nextCall header).1 with
  | ok _ => simp [hf] at hr
  | error f =>
    simp only [hf, Option.some.injEq] at hr
    subst hr
    have hsignals := signals_openMeasurements h header
    have hserver := server_openMeasurements h header
    rw [hf] at hsignals
    rcases openMeasurements_refused hf with ⟨hno, hafter⟩ | ⟨id, hid, rfl, hafter⟩
    · rw [hafter] at hserver hsignals
      rw [deliveries_eq_nil ha.current, List.append_nil] at hsignals
      have hsame := hserver.trans ha.deliver_eq
      refine Or.inl ⟨hno, hsame, published_outcome_of_eq hsame, fun y hy => ?_⟩
      change y ∈ (h.step (.openMeasurements header)).1.signals at hy
      rw [hsignals] at hy
      exact List.mem_singleton.mp hy
    · have hsome : (h.server.directory.get? id).isSome := by
        obtain ⟨s, hs, -⟩ := registered_of_storedStatus hid.online
        simp [hs]
      have hchange := change?_openMeasurements hid.sensor hsome
      rw [if_pos hid.online] at hchange
      rw [hafter] at hserver
      refine Or.inr ⟨id, hid, rfl, hserver, ?_, ?_, ?_⟩
      · change (h.step (.openMeasurements header)).2.storedStatus id = _
        rw [hh.storedStatus_step, hchange]
        simp [Sensor.Change.statusAfter]
      · refine (hh.published_eq _).trans ?_
        rw [hchange]
        rfl
      · intro k followed hk
        have hne : h.nextCall ≠ k := Nat.ne_of_gt (ha.lt_nextCall hk)
        change heard k (h.step (.openMeasurements header)).1.signals = _
        rw [ha.heard_step hh]
        simp [direct, hf, heard, Signal.call, hne, forwarded, hchange, hk, Sensor.Change.event]

theorem not_interrupts {c : Call} (hc : c ≠ .measurements) (id : Uuid) :
    ¬ h.Interrupts header c id :=
  fun hi => hc hi.call_eq

/-- A refused call of any kind. -/
theorem outcome_refused (hh : h.Sound) (ha : h.Attentive) (c : Call)
    (hr : (h.outcome (c.action header)).refusal? = some status) :
    ((∀ id, ¬ h.Interrupts header c id) ∧ h.Untouched status (h.outcome (c.action header))) ∨
    ∃ id, h.Interrupts header c id ∧ h.Interrupted id status (h.outcome (c.action header)) := by
  cases c with
  | measurements => exact measurements_refused hh ha hr
  | registerSensor r o =>
    refine Or.inl ⟨not_interrupts (by simp), ?_⟩
    simp only [Call.action, outcome, step, act, Service.registerSensor, Moment.refusal?] at hr
    obtain ⟨f, hf, -⟩ := statusOf_eq_error_iff.mp (refusalOf_eq_some_iff.mp hr)
    refine untouched_of_eq ?_ rfl
    simp only [Call.action, step, act, Service.registerSensor, registerSensor_refused hf]
  | registerClient r o =>
    refine Or.inl ⟨not_interrupts (by simp), ?_⟩
    simp only [Call.action, outcome, step, act, Service.registerClient, Moment.refusal?] at hr
    obtain ⟨f, hf, -⟩ := statusOf_eq_error_iff.mp (refusalOf_eq_some_iff.mp hr)
    refine untouched_of_eq ?_ rfl
    simp only [Call.action, step, act, Service.registerClient, registerClient_refused hf]
  | logIn login password o =>
    exact Or.inl ⟨not_interrupts (by simp), untouched_of_eq rfl rfl⟩
  | history r => exact Or.inl ⟨not_interrupts (by simp), untouched_of_eq rfl rfl⟩
  | subscription =>
    refine Or.inl ⟨not_interrupts (by simp), ?_⟩
    change refusalOf (Server.statusOf
      ((h.server.openSubscription h.nextCall header).1.map fun _ => [])) = some status at hr
    obtain ⟨f, hf, -⟩ := statusOf_eq_error_iff.mp (refusalOf_eq_some_iff.mp hr)
    refine untouched_of_eq (openSubscription_refused (f := f) ?_) rfl
    cases hx : (h.server.openSubscription h.nextCall header).1 with
    | ok _ => simp [hx, Except.map] at hf
    | error g => simpa [hx, Except.map] using hf

theorem authenticate_of_sensorOf (hid : h.server.sensorOf header = .ok id) :
    h.server.issuer.authenticate header = .ok (some (.sensor id)) := by
  unfold Server.sensorOf Issuer.identify at hid
  cases hauth : h.server.issuer.authenticate header with
  | error s => simp [hauth] at hid
  | ok p =>
    rcases p with _ | q
    · simp [hauth] at hid
    · cases q with
      | client login => simp [hauth] at hid
      | sensor j =>
        simp only [hauth, Except.ok.injEq] at hid
        rw [hid]

theorem request_eq_outcome {p : Option Principal}
    (hp : h.server.issuer.authenticate header = .ok p) (c : Call) :
    h.request header c = h.outcome (c.action header) := by
  rw [request, hp]

/-- A header that is refused keeps its call from being made. -/
theorem request_refused (hh : h.Sound) (ha : h.Attentive) (c : Call)
    (hr : (h.request header c).refusal? = some status) :
    ((∀ id, ¬ h.Interrupts header c id) ∧ h.Untouched status (h.request header c)) ∨
    ∃ id, h.Interrupts header c id ∧ h.Interrupted id status (h.request header c) := by
  cases hp : h.server.issuer.authenticate header with
  | ok p =>
    rw [request_eq_outcome hp] at hr ⊢
    exact outcome_refused hh ha c hr
  | error s =>
    refine Or.inl ⟨fun id hi => ?_, ?_⟩
    · rw [authenticate_of_sensorOf hi.sensor] at hp
      cases hp
    · rw [request, hp]
      exact ⟨rfl, rfl, List.forall_mem_nil _⟩

/-- The stored status is part of the server. -/
theorem Interrupts.server_ne {c : Call} {x : Outcome} (hi : h.Interrupts header c id)
    (hx : h.Interrupted id status x) : x.host.server ≠ h.server := by
  intro heq
  have hon := hi.online
  have hoff := hx.stored
  unfold storedStatus at hon hoff
  rw [heq, hon] at hoff
  cases hoff

theorem Interrupts.id_eq {c : Call} {j : Uuid} (hi : h.Interrupts header c id)
    (hj : h.Interrupts header c j) : j = id := by
  have hid := hi.sensor
  rw [hj.sensor] at hid
  exact Except.ok.inj hid

theorem Interrupts.refusal? {c : Call} (hi : h.Interrupts header c id) :
    (h.request header c).refusal? = some Refusal.sensorUnavailable.status := by
  obtain ⟨s, hs, hon⟩ := registered_of_storedStatus hi.online
  obtain rfl := hi.call_eq
  rw [request_eq_outcome (authenticate_of_sensorOf hi.sensor)]
  change (h.step (.openMeasurements header)).1.refusal? = _
  rw [refusal?_openMeasurements, Server.openMeasurements]
  simp [hi.sensor, hs, Sensor.goOnline?_eq, hon]

/-- Every refused call leaves the server as it was and is told to nobody else, but for the attempt
on a sensor that is stored as online. -/
theorem refused_call_keeps_server (issuer : Issuer) (historyCapacity eventBuffer : Nat)
    (as : List Action) (header : Option HeaderValue) (c : Call) {status : Status} :
    let h := (fresh issuer historyCapacity eventBuffer).after as
    let x := h.request header c
    x.refusal? = some status →
      ((∀ id, ¬ h.Interrupts header c id) → h.Untouched status x) ∧
      (∀ id, h.Interrupts header c id → h.Interrupted id status x) ∧
      (x.host.server = h.server ↔ ∀ id, ¬ h.Interrupts header c id) := by
  intro h x hr
  have hh : h.Sound := (sound_fresh issuer historyCapacity eventBuffer).after as
  have ha : h.Attentive := (attentive_fresh issuer historyCapacity eventBuffer).after
    (sound_fresh issuer historyCapacity eventBuffer) as
  rcases request_refused hh ha c hr with ⟨hno, huntouched⟩ | ⟨id, hi, hinterrupted⟩
  · exact ⟨fun _ => huntouched, fun id hid => absurd hid (hno id), fun _ => hno,
      fun _ => huntouched.server⟩
  · refine ⟨fun hno => absurd hi (hno id), fun j hj => ?_, fun heq => ?_, fun hno => ?_⟩
    · rw [hi.id_eq hj]
      exact hinterrupted
    · exact absurd heq (hi.server_ne hinterrupted)
    · exact absurd hi (hno id)

theorem storedStatus_impatientHost_zero : (impatientHost 0).storedStatus ⟨5⟩ = .offline := by
  unfold impatientHost
  rw [List.replicate_zero, after_cons, after_nil,
    (sound_fresh impatientIssuer 4 4).storedStatus_step]
  rfl

theorem interrupts_impatientHost :
    (impatientHost 1).Interrupts impatientHeader .measurements ⟨5⟩ where
  call_eq := rfl
  sensor := sensorOf_impatientHost 1
  online := (impatientHost_accepted storedStatus_impatientHost_zero).2

theorem attentive_impatientHost (n : Nat) : (impatientHost n).Attentive :=
  (attentive_fresh impatientIssuer 4 4).after (sound_fresh impatientIssuer 4 4) _

/-- An attempt while the first call of the sensor is live. -/
def secondAttempt : Outcome :=
  (impatientHost 1).request impatientHeader .measurements

theorem interrupted_secondAttempt : (impatientHost 1).Interrupted ⟨5⟩
    Refusal.sensorUnavailable.status secondAttempt := by
  have hi := interrupts_impatientHost
  rcases request_refused (sound_impatientHost 1) (attentive_impatientHost 1) .measurements
    hi.refusal? with ⟨hno, -⟩ | ⟨id, hid, hx⟩
  · exact absurd hi (hno _)
  · obtain rfl := hi.id_eq hid
    exact hx

/-- The attempt is refused, and the sensor is stored as offline while its first call is live. -/
theorem refused_attempt_takes_sensor_offline :
    secondAttempt.refusal? = some Refusal.sensorUnavailable.status ∧
      (impatientHost 1).storedStatus ⟨5⟩ = .online ∧
      secondAttempt.host.storedStatus ⟨5⟩ = .offline ∧
      secondAttempt.published = some (⟨5⟩, .statusChanged (Uuid.text ⟨5⟩) .unknown) ∧
      secondAttempt.host.server ≠ (impatientHost 1).server := by
  have hi := interrupts_impatientHost
  have hx := interrupted_secondAttempt
  exact ⟨hi.refusal?, hi.online, hx.stored, hx.published, hi.server_ne hx⟩

/-- A sensor without a name is refused its registration. -/
def namelessAttempt : Outcome :=
  (impatientHost 1).request none
    (.registerSensor ⟨" ", "roof", []⟩ ⟨epoch, ⟨6⟩⟩)

theorem refusal?_namelessAttempt :
    namelessAttempt.refusal? = some Refusal.sensorDetailsMissing.status := by
  unfold namelessAttempt
  rw [request_eq_outcome (p := none) rfl]
  exact refusal?_registerSensor_blank _ (by decide)

theorem refused_call_keeps_server_impatient :
    (namelessAttempt.refusal? = some Refusal.sensorDetailsMissing.status ∧
      (impatientHost 1).Untouched Refusal.sensorDetailsMissing.status namelessAttempt) ∧
    secondAttempt.refusal? = some Refusal.sensorUnavailable.status ∧
      (impatientHost 1).Interrupts impatientHeader .measurements ⟨5⟩ ∧
      (impatientHost 1).Interrupted ⟨5⟩ Refusal.sensorUnavailable.status secondAttempt := by
  have hi := interrupts_impatientHost
  have hkept := refused_call_keeps_server impatientIssuer 4 4 _ none _ refusal?_namelessAttempt
  have hearly := refused_call_keeps_server impatientIssuer 4 4 _ impatientHeader .measurements
    hi.refusal?
  exact ⟨⟨refusal?_namelessAttempt, hkept.1 (not_interrupts (by simp))⟩, hi.refusal?, hi,
    hearly.2.1 _ hi⟩

end Host
end SensorRelay
