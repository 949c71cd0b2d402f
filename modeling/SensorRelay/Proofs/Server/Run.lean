import SensorRelay.Proofs.Server.News
import SensorRelay.Server.Service

/-!
# Runs of a server

A run takes the server from one action to the next, each to its completion. Calls that stay open
are numbered in the order in which they were asked for, so no number is ever given twice; an upload
may name any number. What a run leaves behind is one moment for every action.
-/

namespace SensorRelay

open Auth Rpc

/-- One call of a peer, or one thing that happens on the request half of an open call. -/
inductive Action
  | registerSensor (r : SensorRegistration) (o : Occasion)
  | registerClient (r : ClientRegistration) (o : Occasion)
  | logIn (login password : String) (o : Occasion)
  | roster (tags : List String)
  | history (r : HistoryRequest)
  | openMeasurements (header : Option HeaderValue)
  | uploadMeasurement (call : CallId) (u : Upload MeasurementRequest) (o : Occasion)
  | openSubscription (header : Option HeaderValue)
  | uploadControl (call : CallId) (u : Upload SubscribeRequest)

/-- What the caller is told at once. A measurement call is told its number only. -/
inductive Reply
  | nothing
  | sensor (r : Except Status SensorCredentials)
  | token (r : Except Status Token)
  | roster (r : Except Status RosterAnswer)
  | history (r : Except Status HistoryResponse)
  | measurements (call : CallId)
  | subscription (call : CallId) (r : Except Status (List Signal))

/-- A server and the number of its next call. -/
structure Host where
  server : Server
  nextCall : CallId

/-- One step of a run: what was asked, what the feeds took of it, and what came back. -/
structure Moment where
  action : Action
  published : Option (Uuid × SensorEvent)
  reply : Reply
  signals : List Signal

namespace Host

variable (h : Host)

def fresh (issuer : Issuer) (historyCapacity eventBuffer : Nat) : Host :=
  ⟨.empty issuer historyCapacity eventBuffer, 0⟩

def act : Action → Reply × List Signal × Host
  | .registerSensor r o =>
    let x := Service.registerSensor r o h.server
    (.sensor x.1, [], { h with server := x.2 })
  | .registerClient r o =>
    let x := Service.registerClient r o h.server
    (.token x.1, [], { h with server := x.2 })
  | .logIn login password o =>
    let x := Service.logIn login password o h.server
    (.token x.1, [], { h with server := x.2 })
  | .roster tags =>
    let x := Service.roster tags h.server
    (.roster x.1, [], { h with server := x.2 })
  | .history r =>
    let x := Service.history r h.server
    (.history x.1, [], { h with server := x.2 })
  | .openMeasurements header =>
    let x := Service.openMeasurements h.nextCall header h.server
    (.measurements h.nextCall, x.1, ⟨x.2, h.nextCall + 1⟩)
  | .uploadMeasurement call u o =>
    let x := Service.uploadMeasurement call u o h.server
    (.nothing, x.1, { h with server := x.2 })
  | .openSubscription header =>
    let x := Service.openSubscription h.nextCall header h.server
    (.subscription h.nextCall x.1, [], ⟨x.2, h.nextCall + 1⟩)
  | .uploadControl call u =>
    let x := Service.uploadControl call u h.server
    (.nothing, x.1, { h with server := x.2 })

/-- What an upload does to the sensor that its call holds online. -/
def changeOf (id : Uuid) (o : Occasion) : Upload MeasurementRequest → Sensor.Change
  | .message m => .record (Server.measurementOf id m o.now)
  | .halfClose => .goOffline .offline
  | .broken => .goOffline .unknown
  | .abandoned => .goOffline .unknown

/-- The sensor that an action is to change, if any, and how. An attempt that comes too early does to
the sensor what an abandoned call does. -/
def change? : Action → Option (Uuid × Sensor.Change)
  | .openMeasurements header =>
    match h.server.sensorOf header with
    | .ok id => (h.server.directory.get? id).map fun s =>
      (id, if s.status = .online then .goOffline .unknown else .goOnline)
    | .error _ => none
  | .uploadMeasurement call u o =>
    (h.server.measuring.lookup call).map fun id => (id, changeOf id o u)
  | _ => none

/-- What an action puts into the feed of a sensor. -/
def news (a : Action) (id : Uuid) : Batch SensorEvent :=
  (h.act a).2.2.server.directory.newsSince h.server.directory id

/-- What an action puts into any feed, and of which sensor. -/
def published (a : Action) : Option (Uuid × SensorEvent) :=
  (h.act a).2.2.server.directory.publishedSince h.server.directory

def step (a : Action) : Moment × Host :=
  let x := h.act a
  (⟨a, h.published a, x.1, x.2.1⟩, x.2.2)

def run (h : Host) : List Action → List Moment × Host
  | [] => ([], h)
  | a :: as =>
    let first := h.step a
    let rest := run first.2 as
    (first.1 :: rest.1, rest.2)

def after (as : List Action) : Host :=
  (h.run as).2

@[simp] theorem after_nil : h.after [] = h := rfl

@[simp] theorem after_cons (a : Action) (as : List Action) :
    h.after (a :: as) = (h.step a).2.after as := rfl

theorem after_append (as bs : List Action) : h.after (as ++ bs) = (h.after as).after bs := by
  induction as generalizing h with
  | nil => rfl
  | cons a as ih => exact ih (h.step a).2

@[simp] theorem moments_cons (a : Action) (as : List Action) :
    (h.run (a :: as)).1 = (h.step a).1 :: ((h.step a).2.run as).1 := rfl

/-- What every action keeps, every run keeps. -/
theorem after_keeps {P : Host → Prop} (hstep : ∀ {h : Host} (a), P h → P (h.step a).2)
    {h : Host} (h0 : P h) (as : List Action) : P (h.after as) := by
  induction as generalizing h with
  | nil => exact h0
  | cons a as ih => exact ih (hstep a h0)

/-- A step never touches the issuer. An action that changes no sensor leaves the live measurement
calls alone, and adds at most one sensor to the directory. -/
theorem server_step (a : Action) :
    (h.step a).2.server.issuer = h.server.issuer ∧
      match h.change? a with
      | none => (h.step a).2.server.measuring = h.server.measuring ∧
        ((h.step a).2.server.directory = h.server.directory ∨ ∃ r o, a = .registerSensor r o ∧
          h.server.directory.register o.freshId r = .ok (h.step a).2.server.directory)
      | some (id, c) =>
        (h.step a).2.server.directory = h.server.directory.modify id c.apply := by
  cases a with
  | registerSensor r o =>
    simp only [step, act, Service.registerSensor, Server.registerSensor, change?]
    split_ifs with hblank
    · exact ⟨rfl, rfl, Or.inl rfl⟩
    · cases hreg : h.server.directory.register o.freshId r with
      | ok d => exact ⟨rfl, rfl, Or.inr ⟨r, o, rfl, hreg⟩⟩
      | error e => cases e <;> exact ⟨rfl, rfl, Or.inl rfl⟩
  | registerClient r o =>
    simp only [step, act, Service.registerClient, Server.registerClient, change?]
    split_ifs
    · exact ⟨rfl, rfl, Or.inl rfl⟩
    · split <;> exact ⟨rfl, rfl, Or.inl rfl⟩
  | logIn login password o => exact ⟨rfl, rfl, Or.inl rfl⟩
  | roster tags => exact ⟨rfl, rfl, Or.inl rfl⟩
  | history r => exact ⟨rfl, rfl, Or.inl rfl⟩
  | openMeasurements header =>
    simp only [step, act, Service.openMeasurements, Server.settle, Server.openMeasurements, change?]
    cases hid : h.server.sensorOf header with
    | error e => exact ⟨rfl, rfl, Or.inl rfl⟩
    | ok id =>
      cases hs : h.server.directory.get? id with
      | none => simp [hs, Server.deliver]
      | some s =>
        by_cases hon : s.status = .online
        · simp [hs, hon, Sensor.goOnline?_eq, Server.deliver, Server.changeSensor]
          rfl
        · simp [hs, hon, Sensor.goOnline?_eq, Server.deliver, Directory.modify]
  | uploadMeasurement call u o =>
    simp only [step, act, Service.uploadMeasurement, Server.uploadMeasurement, change?]
    cases hid : h.server.measuring.lookup call with
    | none => exact ⟨rfl, rfl, Or.inl rfl⟩
    | some id =>
      cases u <;>
        simp [Server.settle, Server.deliver, Server.recordMeasurement, Server.release, hid,
          Server.changeSensor, changeOf] <;> rfl
  | openSubscription header =>
    simp only [step, act, Service.openSubscription, Server.openSubscription, change?]
    split
    · exact ⟨rfl, rfl, Or.inl rfl⟩
    · split_ifs <;> exact ⟨rfl, rfl, Or.inl rfl⟩
  | uploadControl call u =>
    simp only [step, act, Service.uploadControl, Server.uploadControl, change?]
    split_ifs
    · exact ⟨rfl, rfl, Or.inl rfl⟩
    · cases u with
      | message r =>
        simp only [Server.settle, Server.deliver, Server.control]
        split <;> exact ⟨rfl, rfl, Or.inl rfl⟩
      | _ => exact ⟨rfl, rfl, Or.inl rfl⟩

theorem issuer_step (a : Action) : (h.step a).2.server.issuer = h.server.issuer :=
  (h.server_step a).1

theorem sensorOf_step (a : Action) (header : Option HeaderValue) :
    (h.step a).2.server.sensorOf header = h.server.sensorOf header := by
  unfold Server.sensorOf
  rw [issuer_step]

theorem measuring_step_of_change?_eq_none {a : Action} (hc : h.change? a = none) :
    (h.step a).2.server.measuring = h.server.measuring := by
  have hstep := (h.server_step a).2
  rw [hc] at hstep
  exact hstep.1

/-- An action leaves the directory alone, adds a sensor to it, or changes one sensor. -/
theorem directory_step (a : Action) :
    (h.change? a = none ∧ (h.step a).2.server.directory = h.server.directory) ∨
    (∃ r o, a = .registerSensor r o ∧
      h.server.directory.register o.freshId r = .ok (h.step a).2.server.directory) ∨
    (∃ id c, h.change? a = some (id, c) ∧
      (h.step a).2.server.directory = h.server.directory.modify id c.apply) := by
  have hstep := (h.server_step a).2
  cases hc : h.change? a with
  | none =>
    rw [hc] at hstep
    exact hstep.2.imp (⟨rfl, ·⟩) Or.inl
  | some e =>
    rw [hc] at hstep
    exact Or.inr (Or.inr ⟨e.1, e.2, rfl, hstep⟩)

theorem directory_step_eq {a : Action} (hc : h.change? a = none)
    (hr : ∀ r o, a ≠ .registerSensor r o) :
    (h.step a).2.server.directory = h.server.directory := by
  rcases h.directory_step a with ⟨-, hd⟩ | ⟨r, o, heq, -⟩ | ⟨id, c, hsome, -⟩
  · exact hd
  · exact absurd heq (hr r o)
  · rw [hc] at hsome
    cases hsome

/-- How an action comes to change a sensor, and the live measurement calls afterwards. -/
inductive Cause (h : Host) : Action → Uuid → Sensor.Change → List (CallId × Uuid) → Prop
  | accepted {header : Option HeaderValue} {id : Uuid} {s : Sensor} :
      h.server.sensorOf header = .ok id → h.server.directory.get? id = some s →
      s.status ≠ .online →
      Cause h (.openMeasurements header) id .goOnline (h.server.measuring ++ [(h.nextCall, id)])
  | refused {header : Option HeaderValue} {id : Uuid} {s : Sensor} :
      h.server.sensorOf header = .ok id → h.server.directory.get? id = some s →
      s.status = .online →
      Cause h (.openMeasurements header) id (.goOffline .unknown) h.server.measuring
  | recorded {call : CallId} {m : MeasurementRequest} {o : Occasion} {id : Uuid} :
      h.server.measuring.lookup call = some id →
      Cause h (.uploadMeasurement call (.message m) o) id
        (.record (Server.measurementOf id m o.now)) h.server.measuring
  | ended {call : CallId} {u : Upload MeasurementRequest} {o : Occasion} {id : Uuid}
      {announced : OnlineStatus} :
      h.server.measuring.lookup call = some id → u.isLast = true →
      Cause h (.uploadMeasurement call u o) id (.goOffline announced)
        (h.server.measuring.filter (·.1 ≠ call))

theorem cause_of_change? {a : Action} {id : Uuid} {c : Sensor.Change}
    (hc : h.change? a = some (id, c)) : h.Cause a id c (h.step a).2.server.measuring := by
  cases a with
  | openMeasurements header =>
    cases hid : h.server.sensorOf header with
    | error e => simp [change?, hid] at hc
    | ok i =>
      simp only [change?, hid, Option.map_eq_some_iff, Prod.mk.injEq] at hc
      obtain ⟨s, hs, rfl, rfl⟩ := hc
      split_ifs with hon
      · have hm : (h.step (.openMeasurements header)).2.server.measuring = h.server.measuring := by
          simp [step, act, Service.openMeasurements, Server.settle, Server.openMeasurements, hid,
            hs, Sensor.goOnline?_eq, hon, Server.deliver, Server.changeSensor]
        rw [hm]
        exact .refused hid hs hon
      · have hm : (h.step (.openMeasurements header)).2.server.measuring =
            h.server.measuring ++ [(h.nextCall, i)] := by
          simp [step, act, Service.openMeasurements, Server.settle, Server.openMeasurements, hid,
            hs, Sensor.goOnline?_eq, hon, Server.deliver]
        rw [hm]
        exact .accepted hid hs hon
  | uploadMeasurement call u o =>
    simp only [change?, Option.map_eq_some_iff, Prod.mk.injEq] at hc
    obtain ⟨i, hi, rfl, rfl⟩ := hc
    cases u with
    | message m =>
      have hm : (h.step (.uploadMeasurement call (.message m) o)).2.server.measuring =
          h.server.measuring := by
        simp [step, act, Service.uploadMeasurement, Server.uploadMeasurement, hi, Server.settle,
          Server.recordMeasurement, Server.deliver, Server.changeSensor]
      rw [hm]
      exact .recorded hi
    | _ =>
      simp only [step, act, Service.uploadMeasurement, Server.uploadMeasurement, hi, Server.settle,
        Server.release, Server.deliver, Option.isNone_some, Bool.false_eq_true, ↓reduceIte]
      exact .ended hi rfl
  | _ => simp [change?] at hc

/-- Only a call that stays open takes a number. -/
theorem nextCall_step (a : Action) :
    (h.step a).2.nextCall = h.nextCall +
      match a with
      | .openMeasurements _ | .openSubscription _ => 1
      | _ => 0 := by
  cases a <;> rfl

theorem nextCall_le_step (a : Action) : h.nextCall ≤ (h.step a).2.nextCall := by
  rw [nextCall_step]
  exact Nat.le_add_right _ _

theorem measuring_step (a : Action) :
    (h.step a).2.server.measuring = h.server.measuring ∨
    (∃ id, (h.step a).2.server.measuring = h.server.measuring ++ [(h.nextCall, id)] ∧
      (h.server.directory.get? id).isSome ∧ h.nextCall < (h.step a).2.nextCall) ∨
    (∃ call, (h.step a).2.server.measuring = h.server.measuring.filter (·.1 ≠ call)) := by
  cases hc : h.change? a with
  | none => exact Or.inl (h.measuring_step_of_change?_eq_none hc)
  | some e =>
    obtain ⟨id, c⟩ := e
    have hcause := h.cause_of_change? hc
    generalize (h.step a).2.server.measuring = ms at hcause ⊢
    cases hcause with
    | accepted hid hs hon => exact Or.inr (Or.inl ⟨_, rfl, by simp [hs], Nat.lt_succ_self _⟩)
    | refused hid hs hon => exact Or.inl rfl
    | recorded hi => exact Or.inl rfl
    | ended hi hu => exact Or.inr (Or.inr ⟨_, rfl⟩)

structure Sound (h : Host) : Prop where
  directory : h.server.directory.WellFormed
  ready : ∀ {id s}, h.server.directory.get? id = some s → 0 < s.feed.window.capacity
  roomy : ∀ {id s}, h.server.directory.get? id = some s → 0 < s.history.window.capacity
  numbered : ∀ p ∈ h.server.measuring, p.1 < h.nextCall
  distinct : (h.server.measuring.map Prod.fst).Nodup
  registered : ∀ p ∈ h.server.measuring, (h.server.directory.get? p.2).isSome

theorem sound_fresh (issuer : Issuer) (historyCapacity eventBuffer : Nat) :
    (fresh issuer historyCapacity eventBuffer).Sound where
  directory := Directory.wellFormed_empty historyCapacity eventBuffer
  ready hs := by simp [fresh, Server.empty, Directory.empty, Directory.get?] at hs
  roomy hs := by simp [fresh, Server.empty, Directory.empty, Directory.get?] at hs
  numbered p hp := by simp [fresh, Server.empty] at hp
  distinct := List.nodup_nil
  registered p hp := by simp [fresh, Server.empty] at hp

namespace Sound

variable {h}

theorem directory_step (hh : h.Sound) (a : Action) :
    (h.step a).2.server.directory.WellFormed := by
  rcases h.directory_step a with ⟨-, hd⟩ | ⟨r, o, -, hd⟩ | ⟨id, c, -, hd⟩
  · rw [hd]
    exact hh.directory
  · exact hh.directory.register hd
  · rw [hd]
    exact hh.directory.modify c.id_apply

theorem lookup_measuring_iff (hh : h.Sound) {call : CallId} {id : Uuid} :
    h.server.measuring.lookup call = some id ↔ (call, id) ∈ h.server.measuring := by
  have hnd := hh.distinct
  generalize h.server.measuring = ms at hnd ⊢
  induction ms with
  | nil => simp
  | cons m ms ih =>
    obtain ⟨k, j⟩ := m
    simp only [List.map_cons, List.nodup_cons] at hnd
    by_cases hk : call = k
    · subst hk
      have hno : (call, id) ∉ ms := fun hm => hnd.1 (List.mem_map.mpr ⟨_, hm, rfl⟩)
      simp [hno, eq_comm]
    · have hbeq : (call == k) = false := by simpa using hk
      simp [List.lookup_cons, hbeq, hk, ih hnd.2]

theorem isSome_of_change? (hh : h.Sound) {a : Action} {e : Uuid × Sensor.Change}
    (hc : h.change? a = some e) : (h.server.directory.get? e.1).isSome := by
  obtain ⟨i, c⟩ := e
  have hcause := h.cause_of_change? hc
  generalize (h.step a).2.server.measuring = ms at hcause
  cases hcause with
  | accepted hid hs hon => simp [hs]
  | refused hid hs hon => simp [hs]
  | recorded hi => exact hh.registered _ (hh.lookup_measuring_iff.mp hi)
  | ended hi hu => exact hh.registered _ (hh.lookup_measuring_iff.mp hi)

/-- The sensor of an id after an action is a new one, or the one before with what happened to it. -/
theorem get?_step (hh : h.Sound) {a : Action} {j : Uuid} {s' : Sensor}
    (hs' : (h.step a).2.server.directory.get? j = some s') :
    (h.change? a = none ∧ h.server.directory.get? j = none ∧ ∃ r, s' = .registered j r
      h.server.directory.historyCapacity h.server.directory.eventBuffer) ∨
    ∃ s, h.server.directory.get? j = some s ∧
      s' = (match h.change? a with
        | some (id, c) => if j = id then c.apply s else s
        | none => s) := by
  rcases h.directory_step a with ⟨hc, hd⟩ | ⟨r, o, rfl, hd⟩ | ⟨id, c, hc, hd⟩
  · rw [hd] at hs'
    exact Or.inr ⟨s', hs', by rw [hc]⟩
  · rw [hh.directory.get?_register hd] at hs'
    split_ifs at hs' with hj
    · cases hs'
      exact Or.inl ⟨rfl, hj ▸ hh.directory.get?_of_register hd, r, by rw [hj]⟩
    · exact Or.inr ⟨s', hs', rfl⟩
  · rw [hd, hh.directory.get?_modify] at hs'
    rw [hc]
    split_ifs at hs' with hj
    · obtain ⟨s, hs, rfl⟩ := Option.map_eq_some_iff.mp hs'
      exact Or.inr ⟨s, hj ▸ hs, by simp [hj]⟩
    · exact Or.inr ⟨s', hs', by simp [hj]⟩

/-- No sensor disappears. -/
theorem isSome_get?_step (hh : h.Sound) (a : Action) {j : Uuid}
    (hj : (h.server.directory.get? j).isSome) :
    ((h.step a).2.server.directory.get? j).isSome := by
  rcases h.directory_step a with ⟨-, hd⟩ | ⟨r, o, -, hd⟩ | ⟨id, c, -, hd⟩
  · rwa [hd]
  · rw [hh.directory.get?_register hd]
    split_ifs
    · rfl
    · exact hj
  · rw [hd, hh.directory.get?_modify]
    split_ifs with hid
    · simpa [hid] using hj
    · exact hj

/-- What every new sensor has, and every change keeps, every sensor has after an action. -/
theorem forall_get?_step (hh : h.Sound) {a : Action} {P : Sensor → Prop}
    (hnew : ∀ j r, P (.registered j r h.server.directory.historyCapacity
      h.server.directory.eventBuffer))
    (hkept : ∀ (c : Sensor.Change) s, P s → P (c.apply s))
    (hall : ∀ {j s}, h.server.directory.get? j = some s → P s) {j : Uuid} {s' : Sensor}
    (hs' : (h.step a).2.server.directory.get? j = some s') : P s' := by
  rcases hh.get?_step hs' with ⟨-, -, r, rfl⟩ | ⟨s, hs, rfl⟩
  · exact hnew j r
  · have hold := hall hs
    split
    · split_ifs
      · exact hkept _ s hold
      · exact hold
    · exact hold

theorem step (hh : h.Sound) (a : Action) : (h.step a).2.Sound where
  directory := hh.directory_step a
  ready := hh.forall_get?_step (fun _ _ => Feed.capacity_empty_pos _) (fun c s hs => by simpa)
    hh.ready
  roomy := hh.forall_get?_step (fun _ _ => Nat.le_max_right _ _) (fun c s hs => by simpa) hh.roomy
  numbered p hp := by
    rcases h.measuring_step a with hm | ⟨id, hm, -, hlt⟩ | ⟨call, hm⟩ <;> rw [hm] at hp
    · exact Nat.lt_of_lt_of_le (hh.numbered p hp) (h.nextCall_le_step a)
    · rcases List.mem_append.mp hp with hp | hp
      · exact Nat.lt_trans (hh.numbered p hp) hlt
      · rw [List.mem_singleton.mp hp]
        exact hlt
    · exact Nat.lt_of_lt_of_le (hh.numbered p ((List.mem_filter.mp hp).1)) (h.nextCall_le_step a)
  distinct := by
    rcases h.measuring_step a with hm | ⟨id, hm, -, -⟩ | ⟨call, hm⟩ <;> rw [hm]
    · exact hh.distinct
    · rw [List.map_append, List.map_singleton]
      refine List.nodup_append.mpr ⟨hh.distinct, by simp, ?_⟩
      intro k hk l hl
      obtain ⟨p, hp, rfl⟩ := List.mem_map.mp hk
      rw [List.mem_singleton.mp hl]
      exact Nat.ne_of_lt (hh.numbered p hp)
    · exact hh.distinct.sublist (List.filter_sublist.map _)
  registered p hp := by
    refine hh.isSome_get?_step a ?_
    rcases h.measuring_step a with hm | ⟨id, hm, hid, -⟩ | ⟨call, hm⟩ <;> rw [hm] at hp
    · exact hh.registered p hp
    · rcases List.mem_append.mp hp with hp | hp
      · exact hh.registered p hp
      · rw [List.mem_singleton.mp hp]
        exact hid
    · exact hh.registered p ((List.mem_filter.mp hp).1)

theorem after (hh : h.Sound) (as : List Action) : (h.after as).Sound :=
  after_keeps (fun a hs => hs.step a) hh as

/-- A feed takes the event of the change that its sensor is to undergo, and nothing else. -/
theorem news_eq (hh : h.Sound) (a : Action) (id : Uuid) : h.news a id =
    ⟨0, match h.change? a with
      | some (i, c) => if i = id then [c.event i] else []
      | none => []⟩ := by
  change (h.step a).2.server.directory.newsSince h.server.directory id = _
  rcases h.directory_step a with ⟨hc, hd⟩ | ⟨r, o, rfl, hd⟩ | ⟨i, c, hc, hd⟩
  · rw [hd, hc]
    exact h.server.directory.newsSince_self id
  · exact hh.directory.newsSince_register hd id
  · rw [hd, hc]
    exact hh.directory.newsSince_modify hh.ready (hh.isSome_of_change? hc) c id

theorem published_eq (hh : h.Sound) (a : Action) :
    h.published a = (h.change? a).map fun p => (p.1, p.2.event p.1) := by
  have hnews (j : Uuid) := congrArg Batch.events (hh.news_eq a j)
  cases hc : h.change? a with
  | none =>
    simp only [hc] at hnews
    exact Directory.publishedSince_eq_none hnews
  | some e =>
    simp only [hc] at hnews
    exact (hh.directory_step a).publishedSince_eq_some
      (hh.isSome_get?_step a (hh.isSome_of_change? hc)) hnews

end Sound

/-- The number was given, and no live measurement call has it. -/
structure Idle (h : Host) (k : CallId) : Prop where
  given : k < h.nextCall
  absent : ∀ p ∈ h.server.measuring, p.1 ≠ k

namespace Idle

variable {h} {k : CallId}

theorem step (hk : h.Idle k) (a : Action) : (h.step a).2.Idle k where
  given := Nat.lt_of_lt_of_le hk.given (h.nextCall_le_step a)
  absent := by
    intro p hp
    rcases h.measuring_step a with hm | ⟨id, hm, -, -⟩ | ⟨call, hm⟩ <;> rw [hm] at hp
    · exact hk.absent p hp
    · rcases List.mem_append.mp hp with hp | hp
      · exact hk.absent p hp
      · rw [List.mem_singleton.mp hp]
        exact Nat.ne_of_gt hk.given
    · exact hk.absent p (List.mem_filter.mp hp).1

theorem lookup_eq_none (hk : h.Idle k) : h.server.measuring.lookup k = none := by
  rw [List.lookup_eq_none_iff]
  intro p hp
  simpa using (hk.absent p hp).symm

end Idle

end Host
end SensorRelay
