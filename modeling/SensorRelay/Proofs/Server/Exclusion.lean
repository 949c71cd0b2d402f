import SensorRelay.Proofs.Server.Run
import Mathlib.Data.List.Induction
import Mathlib.Tactic.ByContra

/-!
# One measurement call at a time

A sensor should be held online by one live call at most. It is, for as long as nobody asks for a
second call while the first one lives: such an attempt is refused, but it also stores the sensor as
offline, and the attempt after it is accepted.
-/

namespace SensorRelay

open Auth Rpc

/-- Is this the end of the request half of a measurement call? -/
def Action.ends : Action → CallId → Bool
  | uploadMeasurement c u _, call => c = call && u.isLast
  | _, _ => false

namespace Host

variable (h : Host)

/-- The live calls that send the measurements of a sensor, oldest first. -/
def live (id : Uuid) : List CallId :=
  (h.server.measuring.filter (·.2 = id)).map Prod.fst

/-- The stored status of a sensor. One that is not registered counts as offline. -/
def storedStatus (id : Uuid) : OnlineStatus :=
  ((h.server.directory.get? id).map Sensor.status).getD .offline

/-- No sensor has two live calls, and exactly those with one are stored as online. -/
def Exclusive : Prop :=
  ∀ id, (h.live id).length ≤ 1 ∧ (h.storedStatus id = .online ↔ h.live id ≠ [])

/-- An attempt to send the measurements of a sensor while a live call does. -/
def Contends : Action → Prop
  | .openMeasurements header => ∃ id, h.server.sensorOf header = .ok id ∧ h.live id ≠ []
  | _ => False

variable {h}

theorem mem_live_iff {id : Uuid} {call : CallId} :
    call ∈ h.live id ↔ (call, id) ∈ h.server.measuring := by
  simp [live]

theorem filter_ends_eq_self {a : Action} {calls : List CallId}
    (hends : ∀ call ∈ calls, a.ends call = false) :
    calls.filter (fun call => !a.ends call) = calls :=
  List.filter_eq_self.mpr fun call hcall => by simp [hends call hcall]

namespace Sound

theorem lookup_eq_some_iff_mem_live (hh : h.Sound) {call : CallId} {id : Uuid} :
    h.server.measuring.lookup call = some id ↔ call ∈ h.live id := by
  rw [hh.lookup_measuring_iff, mem_live_iff]

theorem change?_of_ends (hh : h.Sound) {a : Action} {id : Uuid} {call : CallId}
    (hcall : call ∈ h.live id) (hends : a.ends call = true) :
    ∃ announced, h.change? a = some (id, .goOffline announced) := by
  cases a with
  | uploadMeasurement c u o =>
    simp only [Action.ends, Bool.and_eq_true, decide_eq_true_eq] at hends
    obtain ⟨rfl, hu⟩ := hends
    simp only [change?, hh.lookup_eq_some_iff_mem_live.mpr hcall, Option.map_some]
    cases u with
    | message m => cases hu
    | _ => exact ⟨_, rfl⟩
  | _ => cases hends

/-- A call lives from its acceptance to the end of its request half, whatever the others do. -/
theorem live_step (hh : h.Sound) (a : Action) (id : Uuid) :
    (h.step a).2.live id = (h.live id).filter (fun call => !a.ends call) ++
      if h.change? a = some (id, .goOnline) then [h.nextCall] else [] := by
  cases hc : h.change? a with
  | none =>
    rw [filter_ends_eq_self]
    · simp [live, h.measuring_step_of_change?_eq_none hc]
    · intro call hcall
      by_contra hends
      obtain ⟨announced, hsome⟩ := hh.change?_of_ends hcall (by simpa using hends)
      rw [hc] at hsome
      cases hsome
  | some e =>
    obtain ⟨i, c⟩ := e
    have hcause := h.cause_of_change? hc
    unfold live
    generalize (h.step a).2.server.measuring = ms at hcause ⊢
    cases hcause with
    | accepted hid hs hon =>
      rw [filter_ends_eq_self fun _ _ => rfl]
      by_cases hi : i = id <;> simp [hi]
    | refused hid hs hon =>
      rw [filter_ends_eq_self fun _ _ => rfl]
      simp
    | recorded hi =>
      rw [filter_ends_eq_self fun _ _ => by simp [Action.ends, Upload.isLast]]
      simp
    | ended hi hu =>
      rw [List.filter_map, List.filter_filter, List.filter_filter]
      simp [Action.ends, hu, Bool.and_comm, eq_comm]

theorem storedStatus_step (hh : h.Sound) (a : Action) (id : Uuid) :
    (h.step a).2.storedStatus id = match h.change? a with
      | some (i, c) => if i = id then c.statusAfter (h.storedStatus id) else h.storedStatus id
      | none => h.storedStatus id := by
  unfold storedStatus
  cases hs' : (h.step a).2.server.directory.get? id with
  | none =>
    have hs : h.server.directory.get? id = none := by
      by_contra hsome
      have := hh.isSome_get?_step a (Option.ne_none_iff_isSome.mp hsome)
      simp [hs'] at this
    cases hc : h.change? a with
    | none => simp [hs]
    | some e =>
      have hi := hh.isSome_of_change? hc
      have hne : e.1 ≠ id := by
        rintro rfl
        simp [hs] at hi
      simp [hs, hne]
  | some s' =>
    rcases hh.get?_step hs' with ⟨hc, hnone, r, rfl⟩ | ⟨s, hs, rfl⟩
    · simp [hc, hnone, Sensor.registered]
    · cases hc : h.change? a with
      | none => simp [hs]
      | some e =>
        simp only [hs, Option.map_some, Option.getD_some, eq_comm (a := id)]
        split_ifs <;> simp

end Sound

/-- What an action does to the stored status and the live calls of a sensor. -/
inductive Turn (h : Host) (id : Uuid) : Action → OnlineStatus → List CallId → Prop
  | kept {a : Action} : Turn h id a (h.storedStatus id) (h.live id)
  | accepted {header : Option HeaderValue} : h.server.sensorOf header = .ok id →
      h.storedStatus id ≠ .online →
      Turn h id (.openMeasurements header) .online (h.live id ++ [h.nextCall])
  | refused {header : Option HeaderValue} : h.server.sensorOf header = .ok id →
      h.storedStatus id = .online → Turn h id (.openMeasurements header) .offline (h.live id)
  | ended {call : CallId} {u : Upload MeasurementRequest} {o : Occasion} : call ∈ h.live id →
      u.isLast = true →
      Turn h id (.uploadMeasurement call u o) .offline ((h.live id).filter (· ≠ call))

theorem Sound.turn_step (hh : h.Sound) (a : Action) (id : Uuid) :
    h.Turn id a ((h.step a).2.storedStatus id) ((h.step a).2.live id) := by
  rw [hh.live_step, hh.storedStatus_step]
  have hkept (hc : ∀ c, h.change? a ≠ some (id, c)) :
      (h.live id).filter (fun call => !a.ends call) = h.live id := by
    refine filter_ends_eq_self fun call hcall => ?_
    by_contra hends
    obtain ⟨announced, hsome⟩ := hh.change?_of_ends hcall (by simpa using hends)
    exact hc _ hsome
  cases hc : h.change? a with
  | none =>
    rw [hkept (by simp [hc])]
    simpa using Turn.kept
  | some e =>
    obtain ⟨i, c⟩ := e
    by_cases hi : i = id
    · subst hi
      have hcause := h.cause_of_change? hc
      generalize (h.step a).2.server.measuring = ms at hcause
      cases hcause with
      | accepted hid hs hon =>
        rw [filter_ends_eq_self fun _ _ => rfl]
        simpa [Sensor.Change.statusAfter] using Turn.accepted hid (by simpa [storedStatus, hs])
      | refused hid hs hon =>
        rw [filter_ends_eq_self fun _ _ => rfl]
        simpa [Sensor.Change.statusAfter] using Turn.refused hid (by simpa [storedStatus, hs])
      | recorded hi =>
        rw [filter_ends_eq_self fun _ _ => by simp [Action.ends, Upload.isLast]]
        simpa [Sensor.Change.statusAfter] using Turn.kept
      | ended hi hu =>
        simpa [Sensor.Change.statusAfter, Action.ends, hu, eq_comm] using
          Turn.ended (hh.lookup_eq_some_iff_mem_live.mp hi) hu
    · rw [hkept (by simp [hc, hi])]
      simpa [hi] using Turn.kept

theorem sensorOf_eq_ok_iff {s : Server} {header : Option HeaderValue} {id : Uuid} :
    s.sensorOf header = .ok id ↔
      (s.issuer.identify header).toOption = some (.sensor id) := by
  unfold Server.sensorOf
  split <;> simp_all [Except.toOption]

theorem registered_of_storedStatus {id : Uuid} (hon : h.storedStatus id = .online) :
    ∃ s, h.server.directory.get? id = some s ∧ s.status = .online := by
  unfold storedStatus at hon
  cases hs : h.server.directory.get? id with
  | none => simp [hs] at hon
  | some s => exact ⟨s, rfl, by simpa [hs] using hon⟩

theorem change?_openMeasurements {header : Option HeaderValue} {id : Uuid}
    (hid : h.server.sensorOf header = .ok id) (hs : (h.server.directory.get? id).isSome) :
    h.change? (.openMeasurements header) =
      some (id, if h.storedStatus id = .online then .goOffline .unknown else .goOnline) := by
  obtain ⟨s, hs⟩ := Option.isSome_iff_exists.mp hs
  simp [change?, hid, hs, storedStatus]

/-- The call of an attempt is answered at once exactly when the sensor is stored as online. -/
theorem answered_mem_signals_iff {header : Option HeaderValue} {id : Uuid}
    (hid : h.server.sensorOf header = .ok id) (hs : (h.server.directory.get? id).isSome)
    {r : Except Status Unit} :
    .answered h.nextCall r ∈ (h.step (.openMeasurements header)).1.signals ↔
      h.storedStatus id = .online ∧ r = .error Refusal.sensorUnavailable.status := by
  obtain ⟨s, hs⟩ := Option.isSome_iff_exists.mp hs
  by_cases hon : s.status = .online
  · simp [step, act, Service.openMeasurements, Server.openMeasurements, hid, hs, storedStatus, hon,
      Sensor.goOnline?_eq, Server.settle, Server.deliver]
  · simp [step, act, Service.openMeasurements, Server.openMeasurements, hid, hs, storedStatus, hon,
      Sensor.goOnline?_eq, Server.settle, Server.deliver]

/-- An attempt is judged by the stored status alone. A refused one leaves the live calls as they
are, and still stores the sensor as offline. -/
def JudgesByStatus (h : Host) : Prop :=
  ∀ header id, h.server.sensorOf header = .ok id → (h.server.directory.get? id).isSome →
    (∀ r, .answered h.nextCall r ∈ (h.step (.openMeasurements header)).1.signals ↔
      h.storedStatus id = .online ∧ r = .error Refusal.sensorUnavailable.status) ∧
    (h.storedStatus id = .online → h.live id ≠ [] ∧
      (h.step (.openMeasurements header)).2.live id = h.live id ∧
      (h.step (.openMeasurements header)).2.storedStatus id = .offline) ∧
    (h.storedStatus id ≠ .online →
      (h.step (.openMeasurements header)).2.live id = h.live id ++ [h.nextCall] ∧
      (h.step (.openMeasurements header)).2.storedStatus id = .online)

/-- A sensor that is stored as online has a live call, contention or not. -/
def Held (h : Host) : Prop :=
  ∀ id, h.storedStatus id = .online → h.live id ≠ []

theorem Held.step (hheld : h.Held) (hh : h.Sound) (a : Action) : (h.step a).2.Held := by
  intro id
  have hturn := hh.turn_step a id
  generalize (h.step a).2.storedStatus id = status at hturn ⊢
  generalize (h.step a).2.live id = calls at hturn ⊢
  cases hturn with
  | kept => exact hheld id
  | accepted hid hoff => simp
  | refused hid hon => exact fun hno => nomatch hno
  | ended hcall hu => exact fun hno => nomatch hno

theorem Held.judgesByStatus (hheld : h.Held) (hh : h.Sound) : h.JudgesByStatus := by
  intro header id hid hs
  refine ⟨fun r => answered_mem_signals_iff hid hs, ?_⟩
  have hc := change?_openMeasurements hid hs
  rw [hh.live_step, hh.storedStatus_step, hc, filter_ends_eq_self fun _ _ => rfl]
  by_cases hon : h.storedStatus id = .online
  · simp [hon, hheld id hon, Sensor.Change.statusAfter]
  · simp [hon, Sensor.Change.statusAfter]

/-- Every server that is reached judges an attempt by the stored status. -/
theorem judgesByStatus_after (issuer : Issuer) (historyCapacity eventBuffer : Nat)
    (as : List Action) : ((fresh issuer historyCapacity eventBuffer).after as).JudgesByStatus := by
  have hheld : (fresh issuer historyCapacity eventBuffer).Held := by
    intro id hon
    simp [fresh, Server.empty, storedStatus, Directory.empty, Directory.get?] at hon
  obtain ⟨hh, hheld⟩ :=
    after_keeps (P := fun h => h.Sound ∧ h.Held)
      (fun a hk => ⟨hk.1.step a, hk.2.step hk.1 a⟩) ⟨sound_fresh _ _ _, hheld⟩ as
  exact hheld.judgesByStatus hh

/-- Without contention an action keeps the exclusion. -/
theorem Exclusive.step (he : h.Exclusive) (hh : h.Sound) {a : Action} (ha : ¬ h.Contends a) :
    (h.step a).2.Exclusive := by
  intro id
  obtain ⟨hone, hon⟩ := he id
  have hturn := hh.turn_step a id
  generalize (h.step a).2.storedStatus id = status at hturn ⊢
  generalize (h.step a).2.live id = calls at hturn ⊢
  cases hturn with
  | kept => exact he id
  | accepted hid hoff =>
    have hnil : h.live id = [] := by
      by_contra hne
      exact ha ⟨id, hid, hne⟩
    simp [hnil]
  | refused hid hstored => exact absurd ⟨id, hid, hon.mp hstored⟩ ha
  | ended hcall hu =>
    obtain ⟨call, hsingle⟩ :=
      List.length_eq_one_iff.mp (Nat.le_antisymm hone (List.length_pos_of_mem hcall))
    simp_all

theorem Exclusive.not_step (he : h.Exclusive) (hh : h.Sound) {a : Action} (ha : h.Contends a) :
    ¬ (h.step a).2.Exclusive := by
  cases a with
  | openMeasurements header =>
    obtain ⟨id, hid, hne⟩ := ha
    have hon := (he id).2.mpr hne
    obtain ⟨s, hs, -⟩ := registered_of_storedStatus hon
    obtain ⟨-, hlive, hoff⟩ :=
      (Held.judgesByStatus (fun i => (he i).2.mp) hh header id hid (by simp [hs])).2.1 hon
    intro hstep
    have hno := (hstep id).2.mpr (hlive ▸ hne)
    rw [hoff] at hno
    cases hno
  | _ => exact ha.elim

theorem exclusive_fresh (issuer : Issuer) (historyCapacity eventBuffer : Nat) :
    (fresh issuer historyCapacity eventBuffer).Exclusive := by
  intro id
  simp [fresh, Server.empty, live, storedStatus, Directory.empty, Directory.get?]

/-- The exclusion holds throughout a run exactly when no call is attempted while one is live. -/
theorem exclusive_iff_uncontended (issuer : Issuer) (historyCapacity eventBuffer : Nat)
    (as : List Action) :
    ((∀ p, p <+: as → ((fresh issuer historyCapacity eventBuffer).after p).Exclusive) ↔
      ∀ p a, p ++ [a] <+: as → ¬ ((fresh issuer historyCapacity eventBuffer).after p).Contends a) ∧
    ((fresh issuer historyCapacity eventBuffer).after as).JudgesByStatus := by
  refine ⟨?_, judgesByStatus_after issuer historyCapacity eventBuffer as⟩
  have hsound := sound_fresh issuer historyCapacity eventBuffer
  have hfresh := exclusive_fresh issuer historyCapacity eventBuffer
  generalize fresh issuer historyCapacity eventBuffer = h at hsound hfresh ⊢
  constructor
  · intro hall p a hpa hcontends
    have hp := hall p ((List.prefix_append p [a]).trans hpa)
    refine hp.not_step (hsound.after p) hcontends ?_
    simpa [after_append] using hall (p ++ [a]) hpa
  · intro hnone p
    induction p using List.reverseRecOn with
    | nil => exact fun _ => hfresh
    | append_singleton p a ih =>
      intro hpa
      rw [after_append]
      exact (ih ((List.prefix_append p [a]).trans hpa)).step (hsound.after p) (hnone p a hpa)

def impatientIssuer : Issuer := ⟨[0, 255, 16, 171]⟩

/-- The token that the sensor is issued when it is registered. -/
def impatientHeader : Option HeaderValue :=
  HeaderValue.ofBytes? (Text.utf8 ("eyJ0eXAiOiJKV1QiLCJhbGciOiJIUzI1NiJ9." ++
    "eyJzdWIiOiIwMDAwMDAwMC0wMDAwLTAwMDAtMDAwMC0wMDAwMDAwMDAwMDUi" ++
    "LCJraW5kIjoic2Vuc29yIiwiaWF0IjowfQ.SgMctYfcu7AuzfYqMsX48bYGUckys4HLPY4BH4p9Al4"))

/-- A sensor that registers and then attempts to open a call again and again. -/
def impatientHost (attempts : Nat) : Host :=
  (fresh impatientIssuer 4 4).after
    (.registerSensor ⟨"north", "roof", []⟩ ⟨{ day := 0, second := 0, nano := 0 }, ⟨5⟩⟩ ::
      List.replicate attempts (.openMeasurements impatientHeader))

/-- The first instant of 1970, when the sensor registers. -/
def epoch : Instant := { day := 0, second := 0, nano := 0 }

theorem identify_impatientHeader :
    (impatientIssuer.identify impatientHeader).toOption = some (.sensor ⟨5⟩) := by
  decide +kernel

theorem impatientHost_succ (n : Nat) :
    impatientHost (n + 1) = ((impatientHost n).step (.openMeasurements impatientHeader)).2 := by
  unfold impatientHost
  rw [List.replicate_succ', ← List.cons_append, after_append, after_cons, after_nil]

theorem sensorOf_impatientHost (n : Nat) :
    (impatientHost n).server.sensorOf impatientHeader = .ok ⟨5⟩ := by
  induction n with
  | zero =>
    rw [sensorOf_eq_ok_iff]
    unfold impatientHost
    rw [after_cons, List.replicate_zero, after_nil, issuer_step]
    exact identify_impatientHeader
  | succ n ih => rw [impatientHost_succ, sensorOf_step, ih]

theorem sound_impatientHost (n : Nat) : (impatientHost n).Sound :=
  (sound_fresh impatientIssuer 4 4).after _

theorem nextCall_impatientHost (n : Nat) : (impatientHost n).nextCall = n := by
  induction n with
  | zero => decide +kernel
  | succ n ih => rw [impatientHost_succ, nextCall_step, ih]

theorem registered_impatientHost (n : Nat) :
    ((impatientHost n).server.directory.get? ⟨5⟩).isSome := by
  induction n with
  | zero => decide +kernel
  | succ n ih =>
    rw [impatientHost_succ]
    exact (sound_impatientHost n).isSome_get?_step _ ih

theorem impatientHost_refused {n : Nat} (hon : (impatientHost n).storedStatus ⟨5⟩ = .online) :
    (impatientHost (n + 1)).live ⟨5⟩ = (impatientHost n).live ⟨5⟩ ∧
      (impatientHost (n + 1)).storedStatus ⟨5⟩ = .offline := by
  have hjudges : (impatientHost n).JudgesByStatus := judgesByStatus_after impatientIssuer 4 4 _
  rw [impatientHost_succ]
  exact ((hjudges impatientHeader ⟨5⟩ (sensorOf_impatientHost n)
    (registered_impatientHost n)).2.1 hon).2

theorem impatientHost_accepted {n : Nat} (hoff : (impatientHost n).storedStatus ⟨5⟩ = .offline) :
    (impatientHost (n + 1)).live ⟨5⟩ = (impatientHost n).live ⟨5⟩ ++ [n] ∧
      (impatientHost (n + 1)).storedStatus ⟨5⟩ = .online := by
  have hjudges : (impatientHost n).JudgesByStatus := judgesByStatus_after impatientIssuer 4 4 _
  have hturn := (hjudges impatientHeader ⟨5⟩ (sensorOf_impatientHost n)
    (registered_impatientHost n)).2.2 (by rw [hoff]; decide)
  rwa [← impatientHost_succ, nextCall_impatientHost] at hturn

/-- The second attempt is refused and takes the sensor offline; the third is accepted. -/
theorem two_live_calls_of_three_attempts :
    (impatientHost 2).live ⟨5⟩ = [0] ∧ (impatientHost 2).storedStatus ⟨5⟩ = .offline ∧
      (impatientHost 3).live ⟨5⟩ = [0, 2] ∧ ¬ (impatientHost 3).Exclusive := by
  obtain ⟨hlive0, hoff0⟩ :
      (impatientHost 0).live ⟨5⟩ = [] ∧ (impatientHost 0).storedStatus ⟨5⟩ = .offline := by
    decide +kernel
  obtain ⟨hlive1, hon1⟩ := impatientHost_accepted hoff0
  obtain ⟨hlive2, hoff2⟩ := impatientHost_refused hon1
  obtain ⟨hlive3, -⟩ := impatientHost_accepted hoff2
  rw [hlive0] at hlive1
  rw [hlive1] at hlive2
  rw [hlive2] at hlive3
  refine ⟨hlive2, hoff2, hlive3, fun he => ?_⟩
  have hone := (he ⟨5⟩).1
  rw [hlive3] at hone
  exact absurd hone (by decide)

end Host
end SensorRelay
