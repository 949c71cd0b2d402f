import SensorRelay.Proofs.Server.Refused
import SensorRelay.Proofs.Server.Retention
import Mathlib.Data.List.Chain

/-!
# Announced and stored status

Two places tell the status of a sensor: its last announcement, and the status that is stored. They
agree in every server that is reached, but for an unknown status, which is stored as offline. An
accepted measurement call is announced twice, when it opens and when its request half ends.
-/

namespace SensorRelay

open Auth Rpc

def SensorEvent.status? : SensorEvent → Option OnlineStatus
  | statusChanged _ s => some s
  | measured _ => none

def Sensor.Change.announced? : Sensor.Change → Option OnlineStatus
  | goOnline => some .online
  | goOffline announced => some announced
  | record _ => none

/-- The status to be stored after these announcements. -/
def OnlineStatus.afterAll (announced : List OnlineStatus) : OnlineStatus :=
  if announced.getLast? = some online then online else offline

/-- No sensor comes online twice with nothing announced in between. -/
def OnlineStatus.Alternates (announced : List OnlineStatus) : Prop :=
  announced.IsChain fun s t => s = online → t ≠ online

namespace OnlineStatus

variable {announced : List OnlineStatus} {s : OnlineStatus}

theorem afterAll_concat (announced : List OnlineStatus) (s : OnlineStatus) :
    afterAll (announced ++ [s]) = if s = online then online else offline := by
  simp [afterAll]

theorem alternates_concat (ha : Alternates announced)
    (hs : s = online → afterAll announced ≠ online) : Alternates (announced ++ [s]) := by
  refine List.isChain_append.mpr ⟨ha, List.isChain_singleton s, ?_⟩
  intro last hlast next hnext hon
  obtain rfl := Option.some.inj hnext
  intro hagain
  refine hs hagain ?_
  rw [Option.mem_def] at hlast
  rw [afterAll, hlast, if_pos (congrArg some hon)]

end OnlineStatus

def Upload.terminal? {α : Type} : Upload α → Option OnlineStatus
  | message _ => none
  | halfClose => some .offline
  | broken => some .unknown
  | abandoned => some .unknown

/-- What is to be announced if an action ends call `k`. -/
def Action.terminal? (k : CallId) : Action → Option OnlineStatus
  | uploadMeasurement c u _ => if c = k then u.terminal? else none
  | _ => none

/-- Does the action happen on the request half of measurement call `k`? -/
def Action.isOn (k : CallId) : Action → Bool
  | uploadMeasurement c _ _ => c = k
  | _ => false

/-- What is to be announced at each of some actions on a call that is live: its first end only. -/
def terminals (k : CallId) : List Action → List (Option OnlineStatus)
  | [] => []
  | a :: as =>
    match a.terminal? k with
    | none => none :: terminals k as
    | some s => some s :: as.map fun _ => none

namespace Host

variable {h : Host} {id : Uuid} {k : CallId}

/-- What an action announces of a sensor: the status events that its feed takes. -/
def announcedBy (h : Host) (a : Action) (id : Uuid) : List OnlineStatus :=
  (h.news a id).events.filterMap SensorEvent.status?

def announcements (h : Host) : List Action → Uuid → List OnlineStatus
  | [], _ => []
  | a :: as, id => h.announcedBy a id ++ (h.step a).2.announcements as id

/-- What each action of a run announces of a sensor, if it comes from the request half of call
`k`. -/
def announcedOn (h : Host) (k : CallId) (id : Uuid) : List Action → List (List OnlineStatus)
  | [] => []
  | a :: as => (if a.isOn k then h.announcedBy a id else []) :: (h.step a).2.announcedOn k id as

theorem Sound.announcedBy_eq (hh : h.Sound) (a : Action) (id : Uuid) :
    h.announcedBy a id = match h.change? a with
      | some (i, c) => if i = id then c.announced?.toList else []
      | none => [] := by
  rw [announcedBy, hh.news_eq]
  cases h.change? a with
  | none => rfl
  | some e =>
    obtain ⟨i, c⟩ := e
    dsimp only
    split_ifs
    · cases c <;> rfl
    · rfl

/-- Coming online is no way to go offline. -/
theorem ne_online_of_goOffline {a : Action} {announced : OnlineStatus}
    (hc : h.change? a = some (id, .goOffline announced)) : announced ≠ .online := by
  cases a with
  | openMeasurements header =>
    cases hid : h.server.sensorOf header with
    | error r => simp [change?, hid] at hc
    | ok i =>
      simp only [change?, hid, Option.map_eq_some_iff, Prod.mk.injEq] at hc
      obtain ⟨s, -, -, heq⟩ := hc
      split_ifs at heq
      obtain rfl := Sensor.Change.goOffline.inj heq
      decide
  | uploadMeasurement c u o =>
    simp only [change?, Option.map_eq_some_iff, Prod.mk.injEq] at hc
    obtain ⟨i, -, -, heq⟩ := hc
    cases u with
    | message m => cases heq
    | _ =>
      obtain rfl := Sensor.Change.goOffline.inj heq
      decide
  | _ => cases hc

/-- The stored status of every sensor is the one to be stored after its announcements. -/
structure Announced (h : Host) (announced : Uuid → List OnlineStatus) : Prop where
  stored : ∀ id, h.storedStatus id = OnlineStatus.afterAll (announced id)
  alternates : ∀ id, OnlineStatus.Alternates (announced id)

theorem announced_fresh (issuer : Issuer) (historyCapacity eventBuffer : Nat) :
    (fresh issuer historyCapacity eventBuffer).Announced fun _ => [] where
  stored _ := rfl
  alternates _ := List.isChain_nil

theorem Announced.step {announced : Uuid → List OnlineStatus} (hs : h.Announced announced)
    (hh : h.Sound) (a : Action) :
    (h.step a).2.Announced fun id => announced id ++ h.announcedBy a id := by
  have hnext (id : Uuid) :
      (h.step a).2.storedStatus id = OnlineStatus.afterAll (announced id ++ h.announcedBy a id) ∧
        OnlineStatus.Alternates (announced id ++ h.announcedBy a id) := by
    have hkept := And.intro (hs.stored id) (hs.alternates id)
    rw [hh.storedStatus_step, hh.announcedBy_eq]
    cases hc : h.change? a with
    | none => simpa using hkept
    | some e =>
      obtain ⟨i, c⟩ := e
      by_cases hi : i = id
      · subst hi
        simp only [if_true]
        cases c with
        | record m => simpa [Sensor.Change.statusAfter, Sensor.Change.announced?] using hkept
        | goOnline =>
          have hoff : h.storedStatus i ≠ .online := by
            have hcause := h.cause_of_change? hc
            generalize (h.step a).2.server.measuring = ms at hcause
            cases hcause with
            | accepted hid hsensor hon => simpa [storedStatus, hsensor] using hon
          rw [hs.stored] at hoff
          exact ⟨(OnlineStatus.afterAll_concat (announced i) .online).symm,
            OnlineStatus.alternates_concat hkept.2 fun _ => hoff⟩
        | goOffline status =>
          have hne := ne_online_of_goOffline hc
          refine ⟨?_, OnlineStatus.alternates_concat hkept.2 fun hon => absurd hon hne⟩
          have hafter := OnlineStatus.afterAll_concat (announced i) status
          rw [if_neg hne] at hafter
          exact hafter.symm
      · simpa [hi] using hkept
  exact ⟨fun id => (hnext id).1, fun id => (hnext id).2⟩

theorem Announced.after {announced : Uuid → List OnlineStatus} (hs : h.Announced announced)
    (hh : h.Sound) (as : List Action) :
    (h.after as).Announced fun id => announced id ++ h.announcements as id := by
  induction as generalizing h announced with
  | nil => simpa [announcements] using hs
  | cons a as ih =>
    have hrest := ih (hs.step hh a) (hh.step a)
    simpa only [after_cons, announcements, List.append_assoc] using hrest

theorem Announced.roster_eq {announced : Uuid → List OnlineStatus} (hs : h.Announced announced)
    (hh : h.Sound) (tags : List String) :
    h.server.roster tags = (h.server.directory.find tags).map fun s =>
      { s.info with onlineStatus := (OnlineStatus.afterAll (announced s.id)).number } := by
  refine List.map_congr_left fun s hsensor => ?_
  have hget := hh.directory.mem_sensors_iff.mp (List.mem_filter.mp hsensor).1
  rw [← hs.stored, storedStatus, hget]
  rfl

theorem Announced.history_eq_ok {announced : Uuid → List OnlineStatus} (hs : h.Announced announced)
    {r : HistoryRequest} {answer : HistoryResponse} (hr : h.server.history r = .ok answer) :
    ∃ id, Uuid.parse? r.sensorId = some id ∧
      answer.sensorStatus = (OnlineStatus.afterAll (announced id)).number := by
  unfold Server.history at hr
  split_ifs at hr
  cases hid : Uuid.parse? r.sensorId with
  | none => simp [hid] at hr
  | some id =>
    cases hsensor : h.server.directory.get? id with
    | none => simp [hid, hsensor] at hr
    | some s =>
      simp only [hid, hsensor, Except.ok.injEq] at hr
      subst hr
      refine ⟨id, rfl, ?_⟩
      rw [← hs.stored, storedStatus, hsensor]
      rfl

theorem terminal?_eq_none_iff {a : Action} : a.terminal? k = none ↔ a.ends k = false := by
  cases a with
  | uploadMeasurement c u o =>
    unfold Action.terminal? Action.ends
    by_cases hc : c = k
    · cases u <;> simp [hc, Upload.terminal?, Upload.isLast]
    · simp [hc]
  | _ => exact iff_of_true rfl rfl

theorem announced?_changeOf (id : Uuid) (o : Occasion) (u : Upload MeasurementRequest) :
    (changeOf id o u).announced? = u.terminal? := by
  cases u <;> rfl

theorem announcedBy_of_live (hh : h.Sound) (hk : k ∈ h.live id) {a : Action}
    (hon : a.isOn k = true) (j : Uuid) :
    h.announcedBy a j = if j = id then (a.terminal? k).toList else [] := by
  cases a with
  | uploadMeasurement c u o =>
    obtain rfl := of_decide_eq_true hon
    rw [hh.announcedBy_eq, change?, hh.lookup_eq_some_iff_mem_live.mpr hk, Action.terminal?,
      if_pos rfl, ← announced?_changeOf id o u]
    simp only [Option.map_some, eq_comm]
  | _ => cases hon

theorem announcedBy_of_idle (hh : h.Sound) (hk : h.Idle k) {a : Action} (hon : a.isOn k = true)
    (j : Uuid) : h.announcedBy a j = [] := by
  cases a with
  | uploadMeasurement c u o =>
    obtain rfl := of_decide_eq_true hon
    rw [hh.announcedBy_eq, change?, hk.lookup_eq_none]
    rfl
  | _ => cases hon

theorem announcedOn_of_idle (hh : h.Sound) (hk : h.Idle k) (as : List Action) (j : Uuid) :
    h.announcedOn k j as = as.map fun _ => [] := by
  induction as generalizing h with
  | nil => rfl
  | cons a as ih =>
    rw [announcedOn, ih (hh.step a) (hk.step a), List.map_cons]
    congr 1
    exact ite_eq_right_iff.mpr fun hon => announcedBy_of_idle hh hk hon j

theorem idle_of_ends (hh : h.Sound) (hk : k ∈ h.live id) {a : Action} (hends : a.ends k = true) :
    (h.step a).2.Idle k := by
  refine ⟨Nat.lt_of_lt_of_le (hh.numbered _ (mem_live_iff.mp hk)) (h.nextCall_le_step a), ?_⟩
  obtain ⟨announced, hc⟩ := hh.change?_of_ends hk hends
  have hcause := h.cause_of_change? hc
  generalize (h.step a).2.server.measuring = ms at hcause ⊢
  cases hcause with
  | refused hid hs hon => cases hends
  | ended hi hu =>
    simp only [Action.ends, hu, Bool.and_true, decide_eq_true_eq] at hends
    subst hends
    intro p hp
    simpa using (List.mem_filter.mp hp).2

theorem isOn_of_terminal? {a : Action} {s : OnlineStatus} (ha : a.terminal? k = some s) :
    a.isOn k = true := by
  cases a with
  | uploadMeasurement c u o =>
    rw [Action.terminal?] at ha
    split_ifs at ha with hc
    exact decide_eq_true hc
  | _ => cases ha

/-- The request half of a live call announces its first end and nothing else. -/
theorem announcedOn_of_live (hh : h.Sound) (hk : k ∈ h.live id) (as : List Action) (j : Uuid) :
    h.announcedOn k j as = (terminals k as).map fun s => if j = id then s.toList else [] := by
  induction as generalizing h with
  | nil => rfl
  | cons a as ih =>
    have hhead : (if a.isOn k = true then h.announcedBy a j else []) =
        if j = id then (a.terminal? k).toList else [] := by
      split_ifs with hon hj hj
      · rw [announcedBy_of_live hh hk hon, if_pos hj]
      · rw [announcedBy_of_live hh hk hon, if_neg hj]
      · cases ha : a.terminal? k with
        | none => rfl
        | some s => exact absurd (isOn_of_terminal? ha) hon
      · rfl
    rw [announcedOn, hhead, terminals]
    cases ha : a.terminal? k with
    | none =>
      have hstays : k ∈ (h.step a).2.live id := by
        rw [hh.live_step]
        refine List.mem_append_left _ (List.mem_filter.mpr ⟨hk, ?_⟩)
        rw [terminal?_eq_none_iff.mp ha]
        rfl
      rw [ih (hh.step a) hstays]
      rfl
    | some s =>
      have hends : a.ends k = true := by
        rw [← Bool.not_eq_false, ← terminal?_eq_none_iff, ha]
        exact Option.some_ne_none s
      rw [announcedOn_of_idle (hh.step a) (idle_of_ends hh hk hends), List.map_cons, List.map_map]
      simp only [Function.comp_def, Option.toList_none, ite_self]

theorem exists_goOnline_of_refusal?_eq_none {header : Option HeaderValue}
    (hr : (h.step (.openMeasurements header)).1.refusal? = none) :
    ∃ id, h.server.sensorOf header = .ok id ∧
      h.change? (.openMeasurements header) = some (id, .goOnline) := by
  rw [refusal?_openMeasurements, Server.openMeasurements] at hr
  cases hid : h.server.sensorOf header with
  | error r => simp [hid] at hr
  | ok id =>
    cases hs : h.server.directory.get? id with
    | none => simp [hid, hs] at hr
    | some s =>
      by_cases hon : s.status = .online
      · simp [hid, hs, Sensor.goOnline?_eq, hon] at hr
      · exact ⟨id, rfl, by simp [change?, hid, hs, hon]⟩

/-- How an announcement comes about. -/
inductive Announces (h : Host) : Action → Uuid → OnlineStatus → Prop
  | opened {header : Option HeaderValue} {id : Uuid} :
      h.server.sensorOf header = .ok id →
      (h.step (.openMeasurements header)).1.refusal? = none →
      Announces h (.openMeasurements header) id .online
  | refused {header : Option HeaderValue} {id : Uuid} :
      h.server.sensorOf header = .ok id →
      (h.step (.openMeasurements header)).1.refusal? = some Refusal.sensorUnavailable.status →
      Announces h (.openMeasurements header) id .unknown
  | ended {call : CallId} {u : Upload MeasurementRequest} {o : Occasion} {id : Uuid}
      {announced : OnlineStatus} :
      call ∈ h.live id → u.terminal? = some announced →
      Announces h (.uploadMeasurement call u o) id announced

theorem announces_of_mem (hh : h.Sound) {a : Action} {s : OnlineStatus}
    (ha : s ∈ h.announcedBy a id) : h.Announces a id s := by
  rw [hh.announcedBy_eq] at ha
  cases hc : h.change? a with
  | none => simp [hc] at ha
  | some e =>
    obtain ⟨i, c⟩ := e
    simp only [hc] at ha
    split_ifs at ha with hi
    · subst hi
      have ht : c.announced? = some s := Option.mem_toList.mp ha
      cases a with
      | openMeasurements header =>
        have hcause := h.cause_of_change? hc
        generalize (h.step (.openMeasurements header)).2.server.measuring = ms at hcause
        cases hcause with
        | accepted hid hs hon =>
          obtain rfl := Option.some.inj ht
          refine .opened hid ?_
          rw [refusal?_openMeasurements, Server.openMeasurements]
          simp [hid, hs, Sensor.goOnline?_eq, hon]
        | refused hid hs hon =>
          obtain rfl := Option.some.inj ht
          refine .refused hid ?_
          rw [refusal?_openMeasurements, Server.openMeasurements]
          simp [hid, hs, Sensor.goOnline?_eq, hon]
      | uploadMeasurement call u o =>
        simp only [change?, Option.map_eq_some_iff, Prod.mk.injEq] at hc
        obtain ⟨j, hj, rfl, rfl⟩ := hc
        rw [announced?_changeOf] at ht
        exact .ended (hh.lookup_eq_some_iff_mem_live.mp hj) ht
      | _ => cases hc
    · cases ha

/-- What is announced is what a receiver is handed that reads the feed of a sensor after every
action, and it misses nothing. A sensor is shown as online exactly when its last announcement says
so, and it is not announced as online twice in a row. An accepted call announces that it opens, and
of all that happens on its request half the first end and nothing else. Nothing else is announced,
but for the attempts that a sensor refuses. -/
theorem status_agrees_with_announcements (issuer : Issuer) (historyCapacity eventBuffer : Nat)
    (as : List Action) :
    let start := fresh issuer historyCapacity eventBuffer
    let h := start.after as
    let status (id : Uuid) := OnlineStatus.afterAll (start.announcements as id)
    (∀ a id, (h.news a id).lost = 0) ∧
    ((∀ tags, (h.step (.roster tags)).1.reply = .roster (.ok
        ⟨(h.server.directory.find tags).map fun s =>
          { s.info with onlineStatus := (status s.id).number }, none⟩)) ∧
      ∀ r answer, (h.step (.history r)).1.reply = .history (.ok answer) →
        ∃ id, Uuid.parse? r.sensorId = some id ∧ answer.sensorStatus = (status id).number) ∧
    (∀ id, OnlineStatus.Alternates (start.announcements as id)) ∧
    (∀ header, (h.step (.openMeasurements header)).1.refusal? = none →
      ∃ id, h.server.sensorOf header = .ok id ∧
        ∀ j, h.announcedBy (.openMeasurements header) j = (if j = id then [.online] else []) ∧
          ∀ bs, (h.step (.openMeasurements header)).2.announcedOn h.nextCall j bs =
            (terminals h.nextCall bs).map fun s => if j = id then s.toList else []) ∧
    ∀ a id s, s ∈ h.announcedBy a id → h.Announces a id s := by
  intro start h status
  have hsound := sound_fresh issuer historyCapacity eventBuffer
  have hh : h.Sound := hsound.after as
  have hs : h.Announced (start.announcements as) :=
    (announced_fresh issuer historyCapacity eventBuffer).after hsound as
  refine ⟨fun a id => congrArg Batch.lost (hh.news_eq a id),
    ⟨fun tags => ?_, fun r answer hr => ?_⟩, hs.alternates, fun header hr => ?_,
    fun a id s => announces_of_mem hh⟩
  · rw [← hs.roster_eq hh]
    rfl
  · change Reply.history (Server.statusOf (h.server.history r)) = _ at hr
    cases hanswer : h.server.history r with
    | error f => simp [hanswer, Server.statusOf] at hr
    | ok _ =>
      simp only [hanswer, Server.statusOf, Reply.history.injEq, Except.ok.injEq] at hr
      subst hr
      exact hs.history_eq_ok hanswer
  · obtain ⟨id, hid, hc⟩ := exists_goOnline_of_refusal?_eq_none hr
    have hlive : h.nextCall ∈ (h.step (.openMeasurements header)).2.live id := by
      rw [hh.live_step, hc, if_pos rfl]
      exact List.mem_append_right _ (List.mem_singleton_self _)
    refine ⟨id, hid, fun j => ⟨?_, fun bs => announcedOn_of_live (hh.step _) hlive bs j⟩⟩
    rw [hh.announcedBy_eq, hc]
    simp only [Sensor.Change.announced?, Option.toList_some, eq_comm]

end Host
end SensorRelay
