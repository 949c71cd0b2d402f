import SensorRelay.Proofs.Server.Change
import SensorRelay.Proofs.Server.Directory
import SensorRelay.Server.Subscriber
import Mathlib.Data.Finset.Basic

/-!
# Subscribers as sets

What a subscriber follows is a set of ids. A control frame has one of five verdicts on it, and a
subscriber that has read everything is handed what its sensors publish next, once.
-/

namespace SensorRelay

inductive Verdict
  | missing
  | subscribed (id : Uuid)
  | alreadySubscribed (id : Uuid)
  | unsubscribed (id : Uuid)
  | notSubscribed
deriving DecidableEq

namespace Verdict

/-- The verdict on a control frame of one who follows these sensors. -/
def of (registered : Uuid → Bool) (followed : Finset Uuid) (r : SubscribeRequest) : Verdict :=
  match (Uuid.parse? r.sensorId).filter registered with
  | none => missing
  | some id =>
    if r.disconnect then if id ∈ followed then unsubscribed id else notSubscribed
    else if id ∈ followed then alreadySubscribed id else subscribed id

def frame : Verdict → Frame
  | missing => actionFrame .invalidRequest "Sensor you specified does not exist"
  | subscribed id =>
    actionFrame .subscriptionSuccess ("You are now subscribed on sensor: " ++ id.text)
  | alreadySubscribed id =>
    actionFrame .subscriptionFailure ("You are already subscribed: " ++ id.text)
  | unsubscribed id =>
    actionFrame .unsubscriptionSuccess ("You have unsubscribed from sensor: " ++ id.text)
  | notSubscribed => actionFrame .invalidRequest "Client is not subscribed"

/-- What is followed afterwards. -/
def next (followed : Finset Uuid) : Verdict → Finset Uuid
  | subscribed id => insert id followed
  | unsubscribed id => followed.erase id
  | _ => followed

theorem of_eq_subscribed {registered : Uuid → Bool} {followed : Finset Uuid}
    {r : SubscribeRequest} {id : Uuid} (hv : of registered followed r = .subscribed id) :
    registered id = true ∧ id ∉ followed := by
  unfold of at hv
  split at hv
  · cases hv
  · split_ifs at hv with hr hf hf
    cases hv
    rename_i hfilter
    exact ⟨(Option.filter_eq_some_iff.mp hfilter).2, hf⟩

end Verdict

namespace Subscriber

variable {c : Subscriber} {d : Directory} {id : Uuid}

def followed (c : Subscriber) : Finset Uuid :=
  (c.positions.map Prod.fst).toFinset

theorem mem_followed_iff : id ∈ c.followed ↔ ∃ n, (id, n) ∈ c.positions := by
  simp [followed]

@[simp] theorem follows_eq : c.follows id = decide (id ∈ c.followed) := by
  rw [Bool.eq_iff_iff]
  simp [follows, mem_followed_iff]

@[simp] theorem followed_follow (s : Sensor) : (c.follow s).followed = insert s.id c.followed := by
  ext id
  simp [follow, mem_followed_iff, or_comm, exists_or]

@[simp] theorem followed_leave : (c.leave id).followed = c.followed.erase id := by
  ext j
  simp [leave, mem_followed_iff, and_comm]

theorem fst_caughtUp (c : Subscriber) (d : Directory) :
    (c.caughtUp d).positions.map Prod.fst = c.positions.map Prod.fst := by
  simp only [caughtUp, List.map_map]
  refine List.map_congr_left fun p _ => ?_
  simp only [Function.comp_apply]
  split <;> rfl

@[simp] theorem followed_caughtUp : (c.caughtUp d).followed = c.followed := by
  simp [followed, fst_caughtUp]

theorem fst_control (hd : d.WellFormed) (r : SubscribeRequest) :
    (c.control d r).1 = (Verdict.of d.has c.followed r).frame := by
  unfold control Verdict.of
  cases Uuid.parse? r.sensorId with
  | none => rfl
  | some id =>
    cases hs : d.get? id with
    | none => simp [Option.filter, Directory.has, hs, missingText, Verdict.frame]
    | some s =>
      have hid := hd.id_of_get? hs
      by_cases hf : id ∈ c.followed <;> cases r.disconnect <;>
        simp [Option.filter, Directory.has, hs, hid, hf, Verdict.frame]

/-- What a control frame does to a subscriber. -/
theorem snd_control (hd : d.WellFormed) (r : SubscribeRequest) :
    (c.control d r).2 =
      match Verdict.of d.has c.followed r with
      | .subscribed id => ((d.get? id).map c.follow).getD c
      | .unsubscribed id => c.leave id
      | _ => c := by
  unfold control Verdict.of
  cases Uuid.parse? r.sensorId with
  | none => rfl
  | some id =>
    cases hs : d.get? id with
    | none => simp [Option.filter, Directory.has, hs]
    | some s =>
      have hid := hd.id_of_get? hs
      by_cases hf : id ∈ c.followed <;> cases r.disconnect <;>
        simp [Option.filter, Directory.has, hs, hid, hf]

@[simp] theorem call_control (r : SubscribeRequest) : (c.control d r).2.call = c.call := by
  unfold control
  split
  · rfl
  · split <;> rfl

theorem followed_control (hd : d.WellFormed) (r : SubscribeRequest) :
    (c.control d r).2.followed = (Verdict.of d.has c.followed r).next c.followed := by
  rw [snd_control hd]
  split
  · rename_i id hv
    obtain ⟨s, hs⟩ := Directory.has_iff.mp (Verdict.of_eq_subscribed hv).1
    simp [hs, hd.id_of_get? hs, hv, Verdict.next]
  · rename_i id hv
    simp [hv, Verdict.next]
  · rename_i hsub hunsub
    cases hv : Verdict.of d.has c.followed r with
    | subscribed id => exact absurd hv (hsub id)
    | unsubscribed id => exact absurd hv (hunsub id)
    | _ => rfl

/-- Each followed sensor is registered and has one place. -/
structure Placed (c : Subscriber) (d : Directory) : Prop where
  once : (c.positions.map Prod.fst).Nodup
  registered : ∀ p ∈ c.positions, d.has p.1 = true

/-- The subscriber has read everything. -/
structure Current (c : Subscriber) (d : Directory) : Prop extends Placed c d where
  read : ∀ p ∈ c.positions, ∀ s, d.get? p.1 = some s → p.2 = s.feed.published

theorem current_admitted (call : CallId) (login : String) : (admitted call login).Current d where
  once := List.nodup_nil
  registered _ hp := nomatch hp
  read _ hp := nomatch hp

theorem Placed.caughtUp (hc : c.Placed d) : (c.caughtUp d).Current d where
  once := by
    rw [fst_caughtUp]
    exact hc.once
  registered p hp := by
    have hkey : p.1 ∈ c.positions.map Prod.fst := by
      rw [← fst_caughtUp c d]
      exact List.mem_map_of_mem hp
    obtain ⟨q, hq, heq⟩ := List.mem_map.mp hkey
    exact heq ▸ hc.registered q hq
  read p hp s hs := by
    obtain ⟨⟨j, n⟩, -, rfl⟩ := List.mem_map.mp hp
    cases ht : d.get? j with
    | none => simp [ht] at hs
    | some t =>
      simp only [ht, Option.some.injEq] at hs ⊢
      rw [hs]

theorem pending_eq : c.pending d =
    c.positions.flatMap fun p => (d.get? p.1).elim [] fun s => (s.feed.receive p.2).events := by
  refine List.flatMap_congr fun p _ => ?_
  obtain ⟨id, position⟩ := p
  dsimp only
  cases d.get? id <;> rfl

namespace Current

/-- More sensors change nothing for a subscriber. -/
theorem register {d' : Directory} {r : SensorRegistration} (hc : c.Current d) (hd : d.WellFormed)
    (hreg : d.register id r = .ok d') : c.Current d' := by
  have hold : ∀ p ∈ c.positions, d'.get? p.1 = d.get? p.1 := by
    intro p hp
    rw [hd.get?_register hreg, if_neg]
    intro heq
    have hreg := hc.registered p hp
    rw [Directory.has, heq, hd.get?_of_register ‹_›] at hreg
    cases hreg
  exact ⟨⟨hc.once, fun p hp => by rw [Directory.has, hold p hp]; exact hc.registered p hp⟩,
    fun p hp s hs => hc.read p hp s (hold p hp ▸ hs)⟩

theorem follow (hc : c.Current d) {s : Sensor} (hs : d.get? s.id = some s)
    (hno : s.id ∉ c.followed) : (c.follow s).Current d where
  once := by
    have hnew : s.id ∉ c.positions.map Prod.fst := by simpa [followed] using hno
    rw [Subscriber.follow, List.map_append, List.map_singleton]
    refine List.nodup_append.mpr ⟨hc.once, by simp, ?_⟩
    rintro i hi j hj rfl
    rw [List.mem_singleton.mp hj] at hi
    exact hnew hi
  registered p hp := by
    rcases List.mem_append.mp hp with hp | hp
    · exact hc.registered p hp
    · rw [List.mem_singleton.mp hp]
      exact Directory.has_iff.mpr ⟨s, hs⟩
  read p hp t ht := by
    rcases List.mem_append.mp hp with hp | hp
    · exact hc.read p hp t ht
    · rw [List.mem_singleton.mp hp] at ht ⊢
      rw [hs] at ht
      cases ht
      rfl

theorem leave (hc : c.Current d) : (c.leave id).Current d where
  once := hc.once.sublist (List.filter_sublist.map _)
  registered p hp := hc.registered p (List.mem_filter.mp hp).1
  read p hp := hc.read p (List.mem_filter.mp hp).1

theorem control (hc : c.Current d) (hd : d.WellFormed) (r : SubscribeRequest) :
    (c.control d r).2.Current d := by
  rw [snd_control hd]
  split
  · rename_i j hv
    obtain ⟨hreg, hno⟩ := Verdict.of_eq_subscribed hv
    obtain ⟨s, hs⟩ := Directory.has_iff.mp hreg
    have hid := hd.id_of_get? hs
    simpa [hs] using hc.follow (hid.symm ▸ hs) (hid.symm ▸ hno)
  · exact hc.leave
  · exact hc

theorem caughtUp_eq (hc : c.Current d) : c.caughtUp d = c := by
  have hmap : (c.caughtUp d).positions = c.positions := by
    refine (List.map_congr_left fun p hp => ?_).trans (List.map_id _)
    obtain ⟨s, hs⟩ := Directory.has_iff.mp (hc.registered p hp)
    simp [hs, ← hc.read p hp s hs]
  exact congrArg (fun ps => ({ c with positions := ps } : Subscriber)) hmap

theorem pending_eq_nil (hc : c.Current d) : c.pending d = [] := by
  rw [pending, List.flatMap_eq_nil_iff]
  intro p hp
  obtain ⟨s, hs⟩ := Directory.has_iff.mp (hc.registered p hp)
  simp only [hs, hc.read p hp s hs]
  exact congrArg Batch.events s.feed.receive_published

/-- After a change of one sensor its followers are handed one event, and the others none. -/
theorem pending_modify (hc : c.Current d) (hd : d.WellFormed)
    (hready : ∀ {j s}, d.get? j = some s → 0 < s.feed.window.capacity) (ch : Sensor.Change) :
    c.pending (d.modify id ch.apply) = if id ∈ c.followed then [ch.event id] else [] := by
  have hhanded : ∀ p ∈ c.positions, ((d.modify id ch.apply).get? p.1).elim []
      (fun s => (s.feed.receive p.2).events) = if p.1 = id then [ch.event id] else [] := by
    intro p hp
    obtain ⟨s, hs⟩ := Directory.has_iff.mp (hc.registered p hp)
    rw [hd.get?_modify]
    split_ifs with hj
    · rw [hj] at hs
      simp only [hs, Option.map_some, Option.elim_some, Sensor.Change.feed_apply,
        hd.id_of_get? hs, hc.read p hp s (hj ▸ hs)]
      exact congrArg Batch.events (s.feed.receive_publish (hready hs) _)
    · simp only [hs, Option.elim_some, hc.read p hp s hs]
      exact congrArg Batch.events s.feed.receive_published
  have honce := hc.once
  rw [pending_eq, List.flatMap_congr hhanded]
  unfold followed
  simp only [List.mem_toFinset]
  generalize c.positions = ps at honce ⊢
  induction ps with
  | nil => simp
  | cons p ps ih =>
    simp only [List.map_cons, List.nodup_cons] at honce
    rw [List.flatMap_cons, ih honce.2]
    by_cases hj : p.1 = id
    · have hno : id ∉ ps.map Prod.fst := hj ▸ honce.1
      rw [if_pos hj, if_neg hno, if_pos (by rw [List.map_cons, hj]; exact List.mem_cons_self)]
      rfl
    · simp only [if_neg hj, List.map_cons, List.mem_cons, Ne.symm hj, false_or, List.nil_append]

end Current
end Subscriber
end SensorRelay
