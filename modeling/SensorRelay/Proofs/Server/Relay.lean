import SensorRelay.Client.Query
import SensorRelay.Proofs.Auth.Request
import SensorRelay.Proofs.Instant
import SensorRelay.Proofs.Server.Refused
import SensorRelay.Proofs.Server.Retention

/-!
# From a sensor to those who read it

What a sensor sends is made into one measurement. Every subscriber of the sensor reads that
measurement from the frame that it is sent, and whoever asks for the history reads the same
measurement from the answer as long as it is retained.
-/

namespace SensorRelay

open Auth Rpc

namespace Measurement

@[simp] theorem ofResponse?_response (x : Measurement) : ofResponse? x.response = some x := by
  simp [ofResponse?, response]

theorem ofResponse?_eq_none_iff {r : MeasurementResponse} :
    ofResponse? r = none ↔ ∀ t, r.madeAt = some t → ¬ t.IsValid := by
  unfold ofResponse?
  rw [Option.map_eq_none_iff, Option.bind_eq_none_iff]
  apply forall₂_congr
  intro t _
  rw [← Instant.exists_ofTimestamp?_iff, Option.eq_none_iff_forall_ne_some, not_exists]

theorem mapM_ofResponse? (xs : List Measurement) :
    (xs.map response).mapM ofResponse? = some xs := by
  induction xs with
  | nil => rfl
  | cons x xs ih => simp [ih]

/-- How a measurement comes of a request: under the id of the sensor, with the value that was sent,
and made at the time that was sent if there is such a time, and when it was received otherwise. -/
structure ComesOf (x : Measurement) (id : Uuid) (m : MeasurementRequest) (receipt : Instant) :
    Prop where
  sensorId : x.sensorId = id.text
  value : x.value = m.value
  sent : ∀ t, m.madeAt = some t → t.IsValid → x.madeAt.timestamp = t
  received : (∀ t, m.madeAt = some t → ¬ t.IsValid) → x.madeAt = receipt

theorem measurementOf_comesOf (id : Uuid) (m : MeasurementRequest) (receipt : Instant) :
    (Server.measurementOf id m receipt).ComesOf id m receipt where
  sensorId := rfl
  value := rfl
  sent t ht hvalid := by
    obtain ⟨i, hi⟩ := Instant.exists_ofTimestamp?_iff.mpr hvalid
    simp only [Server.measurementOf, ht, Option.bind_some, hi, Option.getD_some]
    exact Instant.ofTimestamp?_eq_some_iff.mp hi
  received hinvalid := by
    have hnone : m.madeAt.bind Instant.ofTimestamp? = none := by
      rw [Option.bind_eq_none_iff]
      intro t ht
      rw [Option.eq_none_iff_forall_ne_some]
      intro i hi
      exact hinvalid t ht (Instant.exists_ofTimestamp?_iff.mp ⟨i, hi⟩)
    simp only [Server.measurementOf, hnone, Option.getD_none]

end Measurement

/-- The event as a subscriber is told of it. -/
def SensorEvent.told : SensorEvent → SubscriberEvent
  | statusChanged id status => .statusChanged id status
  | measured x => .measurement x

namespace SubscriberEvent

@[simp] theorem decode_frame (e : SensorEvent) : decode (some e.frame) = e.told := by
  cases e <;> simp [decode, SensorEvent.frame, SensorEvent.told]

@[simp] theorem decode_actionFrame (status : ActionStatus) (message : String) :
    decode (some (actionFrame status message)) = action status message := by
  simp [decode, actionFrame]

/-- Only a frame without a variant and a measurement without a time mean nothing. -/
theorem isUnknown_decode_iff {f : SubscriptionResponse} : (decode f).isUnknown = true ↔
    f = none ∨ ∃ r, f = some (.measurement r) ∧ ∀ t, r.madeAt = some t → ¬ t.IsValid := by
  cases f with
  | none => simp [decode, isUnknown]
  | some f =>
    cases f with
    | action r => simp [decode, isUnknown]
    | statusChange c => simp [decode, isUnknown]
    | measurement r =>
      have hnone : (decode (some (.measurement r))).isUnknown = true ↔
          Measurement.ofResponse? r = none := by
        cases h : Measurement.ofResponse? r <;> simp [decode, h, isUnknown]
      rw [hnone, Measurement.ofResponse?_eq_none_iff]
      simp

end SubscriberEvent

theorem Client.SensorHistory.ofResponse_answer (xs : List Measurement) (status : OnlineStatus) :
    ofResponse ⟨xs.map Measurement.response, status.number⟩ = .ok ⟨xs, status⟩ := by
  simp only [ofResponse, Measurement.mapM_ofResponse?, OnlineStatus.resolve_number]

/-- A query by any spelling of the id is answered with the newest measurements. -/
theorem Server.history_eq_ok {s : Server} {r : HistoryRequest} {id : Uuid} {sensor : Sensor}
    (hid : Uuid.parse? r.sensorId = some id) (hdepth : 0 < r.depth)
    (hs : s.directory.get? id = some sensor) : s.history r =
      .ok ⟨(sensor.history.latest r.depth.toInt.toNat).map Measurement.response,
        sensor.status.number⟩ := by
  have hpos : ¬ r.depth ≤ 0 := Int32.not_le.mpr hdepth
  simp only [history, hpos, if_false, hid, hs]

/-- A query that is deep enough is answered with all that is retained. -/
theorem History.mem_latest_of_size_le {h : History} {x : Measurement} {depth : Nat}
    (hx : x ∈ h.kept) (hdepth : h.size ≤ depth) : x ∈ h.latest depth := by
  have hlength : (newestFirst h.kept).length = h.size :=
    (List.length_mergeSort _).trans h.window.length_toList
  unfold latest
  rw [List.take_of_length_le (hlength ▸ hdepth)]
  exact (List.mergeSort_perm _ _).mem_iff.mpr hx

namespace Host

open Entry

variable {h : Host} {k : CallId} {id : Uuid}

theorem Sound.isSome_get?_after (hh : h.Sound) (as : List Action)
    (hid : (h.server.directory.get? id).isSome) :
    ((h.after as).server.directory.get? id).isSome := by
  induction as generalizing h with
  | nil => exact hid
  | cons a as ih => exact ih (hh.step a) (hh.isSome_get?_step a hid)

section Upload

variable (hk : h.server.measuring.lookup k = some id) (m : MeasurementRequest) (o : Occasion)

include hk

theorem change?_upload : h.change? (.uploadMeasurement k (.message m) o) =
    some (id, .record (Server.measurementOf id m o.now)) := by
  simp only [change?, hk, Option.map_some, changeOf]

/-- Exactly those who follow the sensor hear of it. -/
theorem heard_upload (hh : h.Sound) (ha : h.Attentive) (c : CallId) :
    heard c (h.step (.uploadMeasurement k (.message m) o)).1.signals =
      if h.isFollowing c id = true then
        [.frame c (some (SensorEvent.measured (Server.measurementOf id m o.now)).frame)]
      else [] := by
  have hdirect : (h.direct (.uploadMeasurement k (.message m) o)).1 = [] := by
    simp [direct, hk]
  rw [ha.heard_step hh, hdirect, forwarded, change?_upload hk, isFollowing]
  cases h.followed? c with
  | none => rfl
  | some f => simp [heard, Sensor.Change.event]

end Upload

/-- A measurement is in the history of its sensor while fewer than fit in came after it. -/
theorem exists_kept_after_upload (issuer : Issuer) (historyCapacity eventBuffer : Nat)
    (as : List Action)
    (hk : ((fresh issuer historyCapacity eventBuffer).after as).server.measuring.lookup k =
      some id) (m : MeasurementRequest) (o : Occasion) (later : List Action) :
    let h := (((fresh issuer historyCapacity eventBuffer).after as).step
      (.uploadMeasurement k (.message m) o)).2
    (SensorEvent.measurements (h.log later id)).length < max historyCapacity 1 →
    ∃ s, (h.after later).server.directory.get? id = some s ∧
      Server.measurementOf id m o.now ∈ s.history.kept := by
  intro h hlater
  have hsound : ((fresh issuer historyCapacity eventBuffer).after as).Sound :=
    (sound_fresh issuer historyCapacity eventBuffer).after as
  have hregistered := hsound.registered _ (hsound.lookup_measuring_iff.mp hk)
  have hsome : ((h.after later).server.directory.get? id).isSome :=
    (hsound.step _).isSome_get?_after later (hsound.isSome_get?_step _ hregistered)
  obtain ⟨s, hs⟩ := Option.isSome_iff_exists.mp hsome
  refine ⟨s, hs, ?_⟩
  have hrun : h.after later = (fresh issuer historyCapacity eventBuffer).after
      (as ++ .uploadMeasurement k (.message m) o :: later) := by
    rw [after_append, after_cons]
  rw [hrun] at hs
  rw [history_after issuer historyCapacity eventBuffer _ hs, log_append, log_cons hsound,
    change?_upload hk, SensorEvent.measurements_append, SensorEvent.measurements_append]
  dsimp only
  rw [if_pos rfl]
  exact mem_rtake_of_lt hlater

/-- A measurement reaches whoever follows its sensor, and whoever asks for the history of its sensor
while it is retained; and of what is sent to subscribers everything is told. -/
theorem measurement_is_relayed (issuer : Issuer) (historyCapacity eventBuffer : Nat)
    (as : List Action)
    (hk : ((fresh issuer historyCapacity eventBuffer).after as).server.measuring.lookup k =
      some id) (m : MeasurementRequest) (o : Occasion) :
    let x := Server.measurementOf id m o.now
    let before := (fresh issuer historyCapacity eventBuffer).after as
    let upload := before.step (.uploadMeasurement k (.message m) o)
    x.ComesOf id m o.now ∧
    (∀ c, heard c upload.1.signals = if before.isFollowing c id = true then
      [.frame c (some (SensorEvent.measured x).frame)] else []) ∧
    SubscriberEvent.decode (some (SensorEvent.measured x).frame) = .measurement x ∧
    (∀ later r, Uuid.parse? r.sensorId = some id → 0 < r.depth →
      (SensorEvent.measurements (upload.2.log later id)).length < max historyCapacity 1 →
      ∃ s answer, (upload.2.after later).server.directory.get? id = some s ∧
        x ∈ s.history.kept ∧
        ((upload.2.after later).step (.history r)).1.reply = .history (.ok answer) ∧
        answer.measurements =
          (s.history.latest r.depth.toInt.toNat).map Measurement.response ∧
        Client.SensorHistory.ofResponse answer =
          .ok ⟨s.history.latest r.depth.toInt.toNat, s.status⟩ ∧
        (s.history.size ≤ r.depth.toInt.toNat →
          x ∈ s.history.latest r.depth.toInt.toNat)) ∧
    (∀ e : SensorEvent, SubscriberEvent.decode (some e.frame) = e.told) ∧
    (∀ status message, SubscriberEvent.decode (some (actionFrame status message)) =
      .action status message) ∧
    ∀ f, (SubscriberEvent.decode f).isUnknown = true ↔
      f = none ∨ ∃ r, f = some (.measurement r) ∧ ∀ t, r.madeAt = some t → ¬ t.IsValid := by
  intro x before upload
  have hsound : before.Sound := (sound_fresh issuer historyCapacity eventBuffer).after as
  have hattentive : before.Attentive := (attentive_fresh issuer historyCapacity eventBuffer).after
    (sound_fresh issuer historyCapacity eventBuffer) as
  refine ⟨Measurement.measurementOf_comesOf id m o.now,
    fun c => heard_upload hk m o hsound hattentive c, SubscriberEvent.decode_frame _, ?_,
    SubscriberEvent.decode_frame, SubscriberEvent.decode_actionFrame,
    fun f => SubscriberEvent.isUnknown_decode_iff⟩
  intro later r hid hdepth hlater
  obtain ⟨s, hs, hx⟩ :=
    exists_kept_after_upload issuer historyCapacity eventBuffer as hk m o later hlater
  have hanswer := Server.history_eq_ok hid hdepth hs
  refine ⟨s, _, hs, hx, ?_, rfl, Client.SensorHistory.ofResponse_answer _ _,
    History.mem_latest_of_size_le hx⟩
  simp only [step, act, Service.history]
  rw [hanswer]
  rfl

theorem lookup_after_accepted {header : Option HeaderValue} (hh : h.Sound)
    (hid : h.server.sensorOf header = .ok id) (hregistered : (h.server.directory.get? id).isSome)
    (hstatus : h.storedStatus id ≠ .online) :
    (h.step (.openMeasurements header)).2.server.measuring.lookup h.nextCall = some id := by
  have hchange := change?_openMeasurements hid hregistered
  rw [if_neg hstatus] at hchange
  rw [(hh.step _).lookup_eq_some_iff_mem_live, hh.live_step, if_pos hchange]
  exact List.mem_append_right _ (List.mem_singleton_self _)

theorem isFollowing_after_subscribed {header : Option HeaderValue} (hh : h.Sound)
    (ha : h.Attentive) (hadmits : h.admits header = true)
    (hregistered : (h.server.directory.get? id).isSome) :
    (h.after [.openSubscription header,
      .uploadControl h.nextCall (.message ⟨id.text, false⟩)]).isFollowing h.nextCall id = true := by
  have hopened := ha.followed?_step hh (.openSubscription header) h.nextCall
  have hregistered' := hh.isSome_get?_step (.openSubscription header) hregistered
  have hcontrolled := (ha.step hh (.openSubscription header)).followed?_step
    (hh.step (.openSubscription header))
    (.uploadControl h.nextCall (.message ⟨id.text, false⟩)) h.nextCall
  dsimp only at hopened hcontrolled
  rw [if_pos ⟨rfl, hadmits⟩] at hopened
  rw [if_pos rfl, hopened, Option.bind_some] at hcontrolled
  rw [after_cons, after_cons, after_nil, isFollowing, hcontrolled]
  simp [Verdict.of, Directory.has, hregistered', Verdict.next, Option.filter, Uuid.parse?_text]

theorem admits_of_identify {header : Option HeaderValue} {login : String}
    (hid : h.server.issuer.identify header = .ok (.client login))
    (hlogin : h.server.accounts.contains login = true) (hroom : h.server.directory.eventBuffer ≠ 0)
    (hqueue : h.server.directory.eventBuffer ≤ Server.greatestQueue) : h.admits header = true := by
  have hbuffer : ¬ (h.server.directory.eventBuffer = 0 ∨
      Server.greatestQueue < h.server.directory.eventBuffer) := by
    omega
  simp only [admits, Server.openSubscription, Server.loginOf, hid, hlogin, if_true, hbuffer,
    if_false]
  rfl

/-- A client follows a sensor, and then the sensor begins to measure. -/
def encounter (h : Host) (login : String) (id : Uuid) (t : Instant) : List Action :=
  [.openSubscription (h.server.issuer.presented (.client login) t),
    .uploadControl h.nextCall (.message ⟨id.text, false⟩),
    .openMeasurements (h.server.issuer.presented (.sensor id) t)]

theorem encounter_takes_place {login : String} (hh : h.Sound) (ha : h.Attentive)
    (hlogin : h.server.accounts.contains login = true) (hroom : h.server.directory.eventBuffer ≠ 0)
    (hqueue : h.server.directory.eventBuffer ≤ Server.greatestQueue)
    (hregistered : (h.server.directory.get? id).isSome) (hstatus : h.storedStatus id ≠ .online)
    (t : Instant) :
    (h.after (h.encounter login id t)).server.measuring.lookup (h.nextCall + 1) = some id ∧
      (h.after (h.encounter login id t)).isFollowing h.nextCall id = true := by
  have hsensor : h.server.sensorOf (h.server.issuer.presented (.sensor id) t) = .ok id := by
    unfold Server.sensorOf
    rw [Issuer.identify_presented]
  have hadmits := admits_of_identify (h.server.issuer.identify_presented (.client login) t)
    hlogin hroom hqueue
  unfold encounter
  generalize h.server.issuer.presented (.client login) t = client at *
  generalize h.server.issuer.presented (.sensor id) t = sensor at *
  have hfollowing := isFollowing_after_subscribed hh ha hadmits hregistered
  -- the subscription changes no sensor
  have hopened := hh.storedStatus_step (.openSubscription client) id
  have hh₁ := hh.step (.openSubscription client)
  have hcontrolled := hh₁.storedStatus_step (.uploadControl h.nextCall (.message ⟨id.text, false⟩)) id
  have hh₂ := hh₁.step (.uploadControl h.nextCall (.message ⟨id.text, false⟩))
  constructor
  · apply lookup_after_accepted hh₂
    · rw [sensorOf_step, sensorOf_step]
      exact hsensor
    · exact hh₁.isSome_get?_step _ (hh.isSome_get?_step _ hregistered)
    · rw [hcontrolled.trans hopened]
      exact hstatus
  · have hkept := ((ha.step hh _).step hh₁ _).followed?_step hh₂ (.openMeasurements sensor)
      h.nextCall
    unfold isFollowing at hfollowing ⊢
    exact (congrArg _ hkept).trans hfollowing

/-- A sensor and a client register. -/
def acquaintance : List Action :=
  [.registerSensor ⟨"north", "roof", []⟩ ⟨epoch, ⟨5⟩⟩,
    .registerClient ⟨"eve", "pw", "e"⟩ ⟨epoch, ⟨6⟩⟩]

def acquaintedHost : Host :=
  (fresh impatientIssuer 2 2).after acquaintance

theorem encounter_acquaintedHost :
    let met := acquaintedHost.after (acquaintedHost.encounter "eve" ⟨5⟩ epoch)
    met.server.measuring.lookup 1 = some ⟨5⟩ ∧ met.isFollowing 0 ⟨5⟩ = true := by
  have hh : acquaintedHost.Sound := (sound_fresh impatientIssuer 2 2).after _
  have ha : acquaintedHost.Attentive :=
    (attentive_fresh impatientIssuer 2 2).after (sound_fresh impatientIssuer 2 2) _
  have hbuffer : acquaintedHost.server.directory.eventBuffer = 2 := rfl
  have hstatus : acquaintedHost.storedStatus ⟨5⟩ = .offline := rfl
  have hnext : acquaintedHost.nextCall = 0 := rfl
  have hlogin : acquaintedHost.server.accounts.contains "eve" = true := rfl
  have hregistered : (acquaintedHost.server.directory.get? ⟨5⟩).isSome := rfl
  generalize acquaintedHost = h at *
  have hmet := encounter_takes_place hh ha hlogin (by rw [hbuffer]; decide)
    (by rw [hbuffer]; decide) hregistered (by rw [hstatus]; decide) epoch
  rw [hnext] at hmet
  exact hmet

/-- A NaN from within a leap second before 1970. -/
def oddRequest : MeasurementRequest :=
  ⟨⟨0x7FF8000000000001⟩, some ⟨-1, 1500000000⟩⟩

theorem measurement_is_relayed_at_encounter :
    let before := (fresh impatientIssuer 2 2).after
      (acquaintance ++ acquaintedHost.encounter "eve" ⟨5⟩ epoch)
    let x := Server.measurementOf ⟨5⟩ oddRequest epoch
    let upload := before.step (.uploadMeasurement 1 (.message oddRequest) ⟨epoch, ⟨7⟩⟩)
    before.server.measuring.lookup 1 = some ⟨5⟩ ∧ before.isFollowing 0 ⟨5⟩ = true ∧
      x.madeAt.timestamp = ⟨-1, 1500000000⟩ ∧
      heard 0 upload.1.signals = [.frame 0 (some (SensorEvent.measured x).frame)] ∧
      ∃ s answer, upload.2.server.directory.get? ⟨5⟩ = some s ∧ x ∈ s.history.kept ∧
        (upload.2.step (.history ⟨Uuid.text ⟨5⟩, 1⟩)).1.reply = .history (.ok answer) ∧
        Client.SensorHistory.ofResponse answer = .ok ⟨s.history.latest 1, s.status⟩ := by
  obtain ⟨hlookup, hfollowing⟩ := encounter_acquaintedHost
  have hrun : acquaintedHost.after (acquaintedHost.encounter "eve" ⟨5⟩ epoch) =
      (fresh impatientIssuer 2 2).after
        (acquaintance ++ acquaintedHost.encounter "eve" ⟨5⟩ epoch) := (after_append _ _ _).symm
  rw [hrun] at hlookup hfollowing
  have hmain := measurement_is_relayed impatientIssuer 2 2 _ hlookup oddRequest ⟨epoch, ⟨7⟩⟩
  clear hrun
  dsimp only at hmain ⊢
  -- nothing is computed of the run from here on
  generalize (fresh impatientIssuer 2 2).after
    (acquaintance ++ acquaintedHost.encounter "eve" ⟨5⟩ epoch) = before at *
  obtain ⟨hcomes, hheard, -, hhistory, -⟩ := hmain
  have hvalid : Timestamp.IsValid ⟨-1, 1500000000⟩ := by
    constructor <;> decide
  have hfirst := hheard 0
  rw [if_pos hfollowing] at hfirst
  obtain ⟨s, answer, hs, hx, hreply, -, hread, -⟩ := hhistory [] ⟨Uuid.text ⟨5⟩, 1⟩
    (Uuid.parse?_text _) (by decide) (by rw [log_nil]; decide)
  exact ⟨hlookup, hfollowing, hcomes.sent _ rfl hvalid, hfirst, s, answer, hs, hx, hreply, hread⟩

end Host

end SensorRelay
