import SensorRelay.Proofs.Server.Exclusion
import SensorRelay.Proofs.Server.Registry
import SensorRelay.Proofs.Server.Retention
import Mathlib.Data.List.Forall2

/-!
# Accounting for lost events

Every receiver of a feed reads at its own pace. What it is handed accounts for every event that was
published since it subscribed, in their order: an event is either handed over or counted as lost,
and only the events that the feed has no room for are lost.
-/

namespace SensorRelay

/-- The feed counts the published events and keeps the last of them, at most so many. -/
structure Feed.Carries {α : Type} (f : Feed α) (size : Nat) (es : List α) : Prop where
  published : f.published = es.length
  capacity : f.window.capacity = size
  kept : f.kept = es.rtake size

namespace Feed

variable {α : Type} {f : Feed α} {size : Nat} {es : List α}

theorem carries_empty (buffer : Nat) : (empty buffer : Feed α).Carries (leastPowerOfTwo buffer) [] where
  published := rfl
  capacity := rfl
  kept := (List.rtake_nil _).symm

namespace Carries

variable (h : f.Carries size es)

include h

theorem publish (e : α) : (f.publish e).Carries size (es ++ [e]) where
  published := by rw [published_publish, h.published, List.length_append, List.length_singleton]
  capacity := by rw [capacity_publish, h.capacity]
  kept := by
    have hkept : f.window.toList = es.rtake f.window.capacity := by
      rw [h.capacity]
      exact h.kept
    rw [← h.capacity]
    exact Window.toList_push_rtake hkept e

/-- A receiver is handed the last of what it has pending, and the number of the others. -/
theorem receive {position : Nat} (hposition : position ≤ es.length) :
    f.receive position =
      ⟨(es.drop position).length - size, (es.drop position).rtake size⟩ := by
  have hsize : f.window.size = es.length - (es.length - size) := by
    have hlen : f.kept.length = f.window.size := f.window.length_toList
    rw [← hlen, h.kept, List.rtake, List.length_drop]
  rw [Feed.receive, h.published, h.kept, hsize, List.rtake, List.rtake, List.drop_drop,
    List.drop_drop, List.length_drop]
  congr 1
  · omega
  · congr 1
    omega

end Carries
end Feed

/-- The events of a batch, after an entry without a name for each lost one. -/
def Batch.entries {α : Type} (b : Batch α) : List (Option α) :=
  List.replicate b.lost none ++ b.events.map some

/-- Every entry stands for one event, and names it unless it was lost. -/
def AccountsFor {α : Type} (entries : List (Option α)) (es : List α) : Prop :=
  List.Forall₂ (fun x e => x = none ∨ x = some e) entries es

namespace AccountsFor

variable {α : Type} {xs ys : List (Option α)} {es es' : List α}

theorem append (h : AccountsFor xs es) (h' : AccountsFor ys es') : AccountsFor (xs ++ ys) (es ++ es') :=
  List.rel_append h h'

theorem lost (es : List α) : AccountsFor (List.replicate es.length none) es := by
  induction es with
  | nil => exact .nil
  | cons e es ih => exact .cons (.inl rfl) ih

theorem named (es : List α) : AccountsFor (es.map some) es := by
  induction es with
  | nil => exact .nil
  | cons e es ih => exact .cons (.inr rfl) ih

/-- The last events by name and the number of those before them account for all. -/
theorem batch (es : List α) (size : Nat) :
    AccountsFor (Batch.entries ⟨es.length - size, es.rtake size⟩) es := by
  have hlost := lost (es.take (es.length - size))
  rw [List.length_take, Nat.min_eq_left (Nat.sub_le _ _)] at hlost
  have hboth := hlost.append (named (es.drop (es.length - size)))
  rwa [List.take_append_drop] at hboth

theorem sublist (h : AccountsFor xs es) : (xs.filterMap id).Sublist es := by
  induction h with
  | nil => exact .slnil
  | cons h _ ih =>
    rcases h with rfl | rfl
    · exact ih.cons _
    · exact ih.cons_cons _

end AccountsFor

theorem filterMap_entries {α : Type} (bs : List (Batch α)) :
    (bs.flatMap Batch.entries).filterMap id = bs.flatMap (·.events) := by
  rw [List.filterMap_flatMap]
  congr 1
  funext b
  simp [Batch.entries, List.filterMap_append, List.filterMap_map]

namespace Watch

namespace Operation

/-- What an operation does to the sensor that is registered under an id. -/
def change? (id : Uuid) (s : Sensor) : Operation → Option Sensor.Change
  | goOnline i => if i = id ∧ s.status ≠ .online then some .goOnline else none
  | goOffline i announced => if i = id then some (.goOffline announced) else none
  | record i m => if i = id then some (.record m) else none
  | _ => none

/-- The measurement that an operation records for an id. -/
def recorded? (id : Uuid) : Operation → Option Measurement
  | record i m => if i = id then some m else none
  | _ => none

/-- Does an operation end the receiver of a name, or put another one in its place? -/
def ends (name : String) : Operation → Bool
  | subscribe n _ | drop n => n = name
  | _ => false

/-- The name of the receiver that an operation is about. -/
def receiver? : Operation → Option String
  | subscribe n _ | receive n | drop n => some n
  | _ => none

/-- Is an operation about the receiver of another name? -/
def others (name : String) (op : Operation) : Bool :=
  op.receiver?.any (· ≠ name)

end Operation

/-- The event that an operation publishes on a sensor. -/
def published? (w : Watch) (id : Uuid) (op : Operation) : Option SensorEvent :=
  (w.directory.get? id).bind fun s => (op.change? id s).map (·.event id)

/-- The events that some operations publish on a sensor. -/
def log (w : Watch) (id : Uuid) : List Operation → List SensorEvent
  | [] => []
  | op :: ops => (w.published? id op).toList ++ (w.perform op).log id ops

/-- What an operation hands to the receiver of a name. -/
def handed? (w : Watch) (name : String) : Operation → Option (Batch SensorEvent)
  | .receive n => if n = name then (w.receive? n).map Prod.fst else none
  | _ => none

/-- What some operations hand to the receiver of a name. -/
def handed (w : Watch) (name : String) : List Operation → List (Batch SensorEvent)
  | [] => []
  | op :: ops => (w.handed? name op).toList ++ (w.perform op).handed name ops

variable {w : Watch} {id : Uuid} {s : Sensor} {name : String} {op : Operation}

theorem after_cons (w : Watch) (op : Operation) (ops : List Operation) :
    w.after (op :: ops) = (w.perform op).after ops := rfl

theorem after_append (w : Watch) (ops more : List Operation) :
    w.after (ops ++ more) = (w.after ops).after more :=
  List.foldl_append

theorem log_append (w : Watch) (id : Uuid) (ops more : List Operation) :
    w.log id (ops ++ more) = w.log id ops ++ (w.after ops).log id more := by
  induction ops generalizing w with
  | nil => rfl
  | cons op ops ih => rw [List.cons_append, log, log, ih, List.append_assoc, after_cons]

theorem handed_append (w : Watch) (name : String) (ops more : List Operation) :
    w.handed name (ops ++ more) = w.handed name ops ++ (w.after ops).handed name more := by
  induction ops generalizing w with
  | nil => rfl
  | cons op ops ih => rw [List.cons_append, handed, handed, ih, List.append_assoc, after_cons]

theorem handed?_eq_none (h : op ≠ .receive name) : w.handed? name op = none := by
  cases op with
  | receive n =>
    have hne : n ≠ name := by
      rintro rfl
      exact h rfl
    exact if_neg hne
  | _ => rfl

theorem handed_eq_nil {ops : List Operation} (h : .receive name ∉ ops) : w.handed name ops = [] := by
  induction ops generalizing w with
  | nil => rfl
  | cons op ops ih =>
    rw [handed, handed?_eq_none (ne_of_mem_of_not_mem List.mem_cons_self h),
      ih fun hmem => h (List.mem_cons_of_mem op hmem)]
    rfl

theorem tryOnline_eq (id : Uuid) (s : Sensor) : (Server.tryOnline s).2 =
    ((Operation.goOnline id).change? id s).elim s fun c => c.apply s := by
  unfold Server.tryOnline
  by_cases h : s.status = .online
  · simp [Sensor.goOnline?_eq, Operation.change?, h]
  · simp [Sensor.goOnline?_eq, Operation.change?, h]

/-- A registered sensor stays registered, and changes by what the operation does to it. -/
theorem get?_perform (hw : w.directory.WellFormed) (hs : w.directory.get? id = some s)
    (op : Operation) : (w.perform op).directory.get? id =
      some ((op.change? id s).elim s fun c => c.apply s) := by
  rw [directory_perform hw]
  cases op with
  | register i r =>
    dsimp only
    cases hr : w.directory.register i r with
    | error e => exact hs
    | ok d =>
      have hne : id ≠ i := by
        rintro rfl
        rw [hw.get?_of_register hr] at hs
        cases hs
      dsimp only
      rw [hw.get?_register hr, if_neg hne]
      exact hs
  | goOnline i =>
    dsimp only
    rw [hw.get?_modify]
    by_cases hi : id = i
    · subst hi
      rw [if_pos rfl, hs, Option.map_some, tryOnline_eq]
    · simp [Operation.change?, hi, Ne.symm hi, hs]
  | goOffline i announced =>
    dsimp only
    rw [hw.get?_modify]
    by_cases hi : id = i
    · subst hi
      simp [Operation.change?, hs, Sensor.Change.apply]
    · simp [Operation.change?, hi, Ne.symm hi, hs]
  | record i m =>
    dsimp only
    rw [hw.get?_modify]
    by_cases hi : id = i
    · subst hi
      simp [Operation.change?, hs, Sensor.Change.apply]
    · simp [Operation.change?, hi, Ne.symm hi, hs]
  | _ => exact hs

theorem get?_perform_of_none (hw : w.directory.WellFormed) (hnone : w.directory.get? id = none)
    {s' : Sensor} (hs' : (w.perform op).directory.get? id = some s') :
    ∃ r, s' = .registered id r w.directory.historyCapacity w.directory.eventBuffer := by
  rw [directory_perform hw] at hs'
  have hmodify {i : Uuid} {f : Sensor → Sensor} :
      (w.directory.modify i f).get? id ≠ some s' := by
    rw [hw.get?_modify]
    by_cases hi : id = i
    · subst hi
      simp [hnone]
    · simp [hi, hnone]
  cases op with
  | register i r =>
    dsimp only at hs'
    cases hr : w.directory.register i r with
    | error e =>
      rw [hr] at hs'
      rw [hnone] at hs'
      cases hs'
    | ok d =>
      rw [hr] at hs'
      dsimp only at hs'
      rw [hw.get?_register hr] at hs'
      by_cases hi : id = i
      · subst hi
        rw [if_pos rfl] at hs'
        exact ⟨r, (Option.some.inj hs').symm⟩
      · rw [if_neg hi, hnone] at hs'
        cases hs'
  | goOnline i => exact absurd hs' hmodify
  | goOffline i announced => exact absurd hs' hmodify
  | record i m => exact absurd hs' hmodify
  | _ =>
    rw [hnone] at hs'
    cases hs'

theorem capacities_perform (hw : w.directory.WellFormed) (op : Operation) :
    (w.perform op).directory.historyCapacity = w.directory.historyCapacity ∧
      (w.perform op).directory.eventBuffer = w.directory.eventBuffer := by
  rw [directory_perform hw]
  cases op with
  | register i r =>
    dsimp only
    cases hr : w.directory.register i r with
    | error e => exact ⟨rfl, rfl⟩
    | ok d =>
      obtain ⟨-, -, rfl⟩ := Directory.register_eq_ok_iff.mp hr
      exact ⟨rfl, rfl⟩
  | goOnline i => exact w.directory.capacities_modify i _
  | goOffline i announced => exact w.directory.capacities_modify i _
  | record i m => exact w.directory.capacities_modify i _
  | _ => exact ⟨rfl, rfl⟩

/-- What is published as a measurement is what is recorded. -/
theorem measurements_change? (id : Uuid) (s : Sensor) (op : Operation) :
    SensorEvent.measurements ((op.change? id s).map (·.event id)).toList =
      (op.recorded? id).toList := by
  cases op with
  | goOnline i =>
    simp only [Operation.change?, Operation.recorded?]
    split_ifs <;> rfl
  | goOffline i announced =>
    simp only [Operation.change?, Operation.recorded?]
    split_ifs <;> rfl
  | record i m =>
    simp only [Operation.change?, Operation.recorded?]
    split_ifs <;> rfl
  | _ => rfl

theorem published?_of_get? (hs : w.directory.get? id = some s) (op : Operation) :
    w.published? id op = (op.change? id s).map (·.event id) := by
  rw [published?, hs, Option.bind_some]

/-- The feed and the history of every sensor follow from the events that it published. -/
structure Logs (w : Watch) (historyCapacity eventBuffer : Nat)
    (events : Uuid → List SensorEvent) : Prop where
  represents : ∃ ls, w.directory.Represents ls
  historyCapacity_eq : w.directory.historyCapacity = historyCapacity
  eventBuffer_eq : w.directory.eventBuffer = eventBuffer
  unregistered : ∀ {id}, w.directory.get? id = none → events id = []
  carries : ∀ {id s}, w.directory.get? id = some s →
    s.feed.Carries (leastPowerOfTwo eventBuffer) (events id)
  sized : ∀ {id s}, w.directory.get? id = some s →
    s.history.window.capacity = max historyCapacity 1
  kept : ∀ {id s}, w.directory.get? id = some s →
    s.history.kept = (SensorEvent.measurements (events id)).rtake s.history.window.capacity

variable {historyCapacity eventBuffer : Nat} {events : Uuid → List SensorEvent}

theorem logs_empty (historyCapacity eventBuffer : Nat) :
    (Watch.of (.empty historyCapacity eventBuffer)).Logs historyCapacity eventBuffer fun _ => []
    where
  represents := ⟨[], Directory.represents_empty historyCapacity eventBuffer⟩
  historyCapacity_eq := rfl
  eventBuffer_eq := rfl
  unregistered _ := rfl
  carries hs := by simp [Watch.of, Directory.empty, Directory.get?] at hs
  sized hs := by simp [Watch.of, Directory.empty, Directory.get?] at hs
  kept hs := by simp [Watch.of, Directory.empty, Directory.get?] at hs

namespace Logs

variable (h : w.Logs historyCapacity eventBuffer events)

include h

theorem wellFormed : w.directory.WellFormed := by
  obtain ⟨ls, hls⟩ := h.represents
  exact hls.wellFormed

/-- Where there is no sensor nothing is published; where there is one, it is the one before with at
most one change, or it is new. -/
theorem get?_cases {s' : Sensor} (hs' : (w.perform op).directory.get? id = some s') :
    (events id = [] ∧ w.published? id op = none ∧
      ∃ r, s' = .registered id r historyCapacity eventBuffer) ∨
    ∃ s, w.directory.get? id = some s ∧
      ((w.published? id op = none ∧ s' = s) ∨
        ∃ c, w.published? id op = some (Sensor.Change.event s.id c) ∧ s' = c.apply s) := by
  cases hs : w.directory.get? id with
  | none =>
    obtain ⟨r, hr⟩ := get?_perform_of_none h.wellFormed hs hs'
    rw [h.historyCapacity_eq, h.eventBuffer_eq] at hr
    exact .inl ⟨h.unregistered hs, by rw [published?, hs]; rfl, r, hr⟩
  | some s =>
    rw [get?_perform h.wellFormed hs] at hs'
    refine .inr ⟨s, rfl, ?_⟩
    rw [published?_of_get? hs, h.wellFormed.id_of_get? hs]
    cases hc : op.change? id s with
    | none =>
      rw [hc] at hs'
      exact .inl ⟨rfl, (Option.some.inj hs').symm⟩
    | some c =>
      rw [hc] at hs'
      exact .inr ⟨c, rfl, (Option.some.inj hs').symm⟩

theorem perform (op : Operation) : (w.perform op).Logs historyCapacity eventBuffer
    fun id => events id ++ (w.published? id op).toList where
  represents := by
    obtain ⟨ls, hls⟩ := h.represents
    exact ⟨_, represents_perform hls op⟩
  historyCapacity_eq := (capacities_perform h.wellFormed op).1.trans h.historyCapacity_eq
  eventBuffer_eq := (capacities_perform h.wellFormed op).2.trans h.eventBuffer_eq
  unregistered {id} hnone := by
    have hbefore : w.directory.get? id = none := by
      cases hs : w.directory.get? id with
      | none => rfl
      | some s =>
        rw [get?_perform h.wellFormed hs] at hnone
        cases hnone
    rw [h.unregistered hbefore, published?, hbefore]
    rfl
  carries {id s'} hs' := by
    rcases h.get?_cases hs' with ⟨hes, hpub, r, rfl⟩ | ⟨s, hs, ⟨hpub, rfl⟩ | ⟨c, hpub, rfl⟩⟩
    · rw [hes, hpub]
      exact Feed.carries_empty eventBuffer
    · rw [hpub, Option.toList_none, List.append_nil]
      exact h.carries hs
    · rw [hpub, Sensor.Change.feed_apply]
      exact (h.carries hs).publish _
  sized {id s'} hs' := by
    rcases h.get?_cases hs' with ⟨-, -, r, rfl⟩ | ⟨s, hs, ⟨-, rfl⟩ | ⟨c, -, rfl⟩⟩
    · rfl
    · exact h.sized hs
    · rw [Sensor.Change.historyCapacity_apply]
      exact h.sized hs
  kept {id s'} hs' := by
    rcases h.get?_cases hs' with ⟨hes, hpub, r, rfl⟩ | ⟨s, hs, ⟨hpub, rfl⟩ | ⟨c, hpub, rfl⟩⟩
    · rw [hes, hpub]
      exact (List.rtake_nil _).symm
    · rw [hpub, Option.toList_none, List.append_nil]
      exact h.kept hs
    · rw [hpub, Sensor.Change.historyCapacity_apply]
      exact Sensor.Change.history_apply c s (h.kept hs)

theorem after (ops : List Operation) : (w.after ops).Logs historyCapacity eventBuffer
    fun id => events id ++ w.log id ops := by
  induction ops generalizing w events with
  | nil => simpa [log, Watch.after] using h
  | cons op ops ih =>
    have hrest := ih (h.perform op)
    simpa [log, after_cons, List.append_assoc] using hrest

end Logs

/-- A name has a receiver that has read so many of the events of a sensor. -/
structure Attends (w : Watch) (name : String) (id : Uuid) (es : List SensorEvent)
    (position : Nat) : Prop where
  receiver : w.receivers.lookup name = some ⟨id, position⟩
  registered : ∃ s, w.directory.get? id = some s
  position_le : position ≤ es.length

theorem receivers_onSensor (w : Watch) (id : Uuid) (f : Sensor → Sensor) :
    (w.onSensor id f).receivers = w.receivers := by
  unfold onSensor
  split <;> rfl

theorem lookup_drop {n : String} (h : name ≠ n) :
    (w.drop n).2.receivers.lookup name = w.receivers.lookup name := by
  unfold drop
  cases w.receivers with
  | nil => rfl
  | cons r rs =>
    have hbind := lookup_bindName_of_ne h r.2 (r :: rs)
    rwa [bindName, List.lookup_cons, beq_false_of_ne h] at hbind

theorem lookup_drop_self (w : Watch) (name : String) :
    (w.drop name).2.receivers.lookup name = none := by
  rw [drop, List.lookup_eq_none_iff]
  intro p hp
  have hne : p.1 ≠ name := by simpa using (List.mem_filter.mp hp).2
  exact bne_iff_ne.mpr hne.symm

theorem receive?_eq_none (h : w.receivers.lookup name = none) : w.receive? name = none := by
  rw [receive?, h]
  rfl

theorem receive?_of_lookup {r : Receiver} (h : w.receivers.lookup name = some r) :
    w.receive? name = (w.directory.get? r.sensor).map
      fun s => (s.feed.receive r.position, w.subscribe name s) := by
  rw [receive?, h, Option.bind_eq_bind, Option.bind_some]
  cases w.directory.get? r.sensor <;> rfl

theorem perform_subscribe (hs : w.directory.get? id = some s) :
    w.perform (.subscribe name id) = w.subscribe name s := by
  unfold perform
  simp only [hs]

theorem perform_receive (w : Watch) (name : String) :
    w.perform (.receive name) = (w.receive? name).elim w Prod.snd := by
  unfold perform
  cases h : w.receive? name <;> simp only [h, Option.elim_none, Option.elim_some]

theorem lookup_perform_receive (w : Watch) (name : String) :
    (w.perform (.receive name)).receivers.lookup name = (w.receivers.lookup name).map fun r =>
      (w.directory.get? r.sensor).elim r fun s => ⟨s.id, s.feed.published⟩ := by
  rw [perform_receive]
  cases hr : w.receivers.lookup name with
  | none => rw [receive?_eq_none hr, Option.elim_none, hr, Option.map_none]
  | some r =>
    rw [receive?_of_lookup hr, Option.map_some]
    cases w.directory.get? r.sensor with
    | none => exact hr
    | some s => exact lookup_bindName_self ..

theorem lookup_perform (hends : op.ends name = false) (hreceive : op ≠ .receive name) :
    (w.perform op).receivers.lookup name = w.receivers.lookup name := by
  cases op with
  | register i r =>
    unfold perform
    cases h : w.directory.register i r <;> simp only [h]
  | goOnline i => exact congrArg (List.lookup name) (receivers_onSensor ..)
  | goOffline i announced => exact congrArg (List.lookup name) (receivers_onSensor ..)
  | record i m => exact congrArg (List.lookup name) (receivers_onSensor ..)
  | subscribe n i =>
    have hne : name ≠ n := Ne.symm (by simpa [Operation.ends] using hends)
    cases h : w.directory.get? i with
    | none =>
      unfold perform
      simp only [h]
    | some s =>
      rw [perform_subscribe h]
      exact lookup_bindName_of_ne hne _ _
  | receive n =>
    have hne : name ≠ n := by
      rintro rfl
      exact hreceive rfl
    rw [perform_receive]
    cases hr : w.receivers.lookup n with
    | none => rw [receive?_eq_none hr, Option.elim_none]
    | some r =>
      rw [receive?_of_lookup hr]
      cases w.directory.get? r.sensor with
      | none => rfl
      | some s => exact lookup_bindName_of_ne hne _ _
  | drop n =>
    have hne : n ≠ name := by simpa [Operation.ends] using hends
    exact lookup_drop hne.symm

theorem published?_eq_none {n : String} (h : op.receiver? = some n) : w.published? id op = none := by
  rw [published?]
  cases op with
  | subscribe | receive | drop => cases w.directory.get? id <;> rfl
  | _ => cases h

theorem published?_receive (w : Watch) (id : Uuid) (n : String) :
    w.published? id (.receive n) = none :=
  published?_eq_none rfl

namespace Logs

variable (h : w.Logs historyCapacity eventBuffer events)

include h

theorem attends_subscribe (name : String) (hs : w.directory.get? id = some s) :
    (w.perform (.subscribe name id)).Attends name id (events id) (events id).length where
  receiver := by
    rw [perform_subscribe hs, ← (h.carries hs).published, Watch.subscribe, lookup_bindName_self,
      h.wellFormed.id_of_get? hs]
  registered := ⟨_, get?_perform h.wellFormed hs (.subscribe name id)⟩
  position_le := le_refl _

theorem attends_perform {position : Nat} (ha : w.Attends name id (events id) position)
    (hends : op.ends name = false) (hreceive : op ≠ .receive name) :
    (w.perform op).Attends name id (events id ++ (w.published? id op).toList) position where
  receiver := (lookup_perform hends hreceive).trans ha.receiver
  registered := by
    obtain ⟨s, hs⟩ := ha.registered
    exact ⟨_, get?_perform h.wellFormed hs op⟩
  position_le := by
    rw [List.length_append]
    exact Nat.le_add_right_of_le ha.position_le

/-- A receiver that is asked is handed what the feed still has of the rest, and has read it all. -/
theorem receive {position : Nat} (ha : w.Attends name id (events id) position) :
    w.handed? name (.receive name) = some ⟨((events id).drop position).length - leastPowerOfTwo eventBuffer,
      ((events id).drop position).rtake (leastPowerOfTwo eventBuffer)⟩ ∧
    (w.perform (.receive name)).Attends name id (events id) (events id).length := by
  obtain ⟨s, hs⟩ := ha.registered
  have hreceive : w.receive? name = some (s.feed.receive position, w.subscribe name s) := by
    rw [receive?_of_lookup ha.receiver, hs]
    rfl
  constructor
  · rw [handed?, if_pos rfl, hreceive, Option.map_some, (h.carries hs).receive ha.position_le]
  · rw [perform_receive, hreceive, Option.elim_some, ← perform_subscribe hs]
    exact h.attends_subscribe name hs

/-- A receiver that is not asked for a while has all of that pending. -/
theorem attends_after {position : Nat} (ha : w.Attends name id (events id) position)
    (ops : List Operation) (hlive : ∀ op ∈ ops, op.ends name = false) (hquiet : .receive name ∉ ops) :
    (w.after ops).Attends name id (events id ++ w.log id ops) position := by
  induction ops generalizing w events with
  | nil => simpa [log, Watch.after] using ha
  | cons op ops ih =>
    have hstep := h.attends_perform ha (hlive op List.mem_cons_self)
      (ne_of_mem_of_not_mem List.mem_cons_self hquiet)
    have hrest := ih (h.perform op) hstep (fun o ho => hlive o (List.mem_cons_of_mem op ho))
      (fun hmem => hquiet (List.mem_cons_of_mem op hmem))
    simpa [log, after_cons, List.append_assoc] using hrest

/-- Whatever happens, a receiver that nothing ends has read a part of the events. -/
theorem exists_attends_after {position : Nat} (ha : w.Attends name id (events id) position)
    (ops : List Operation) (hlive : ∀ op ∈ ops, op.ends name = false) :
    ∃ p, (w.after ops).Attends name id (events id ++ w.log id ops) p := by
  induction ops generalizing w events position with
  | nil => exact ⟨position, by simpa [log, Watch.after] using ha⟩
  | cons op ops ih =>
    obtain ⟨p, hstep⟩ :
        ∃ p, (w.perform op).Attends name id (events id ++ (w.published? id op).toList) p := by
      by_cases hop : op = .receive name
      · subst hop
        exact ⟨_, by simpa [published?_receive] using (h.receive ha).2⟩
      · exact ⟨_, h.attends_perform ha (hlive op List.mem_cons_self) hop⟩
    obtain ⟨p', hrest⟩ := ih (h.perform op) hstep fun o ho => hlive o (List.mem_cons_of_mem op ho)
    exact ⟨p', by simpa [log, after_cons, List.append_assoc] using hrest⟩

/-- By the time it is asked again a receiver has accounted for all that it had not read. -/
theorem accountsFor_handed {position : Nat} (ha : w.Attends name id (events id) position)
    (ops : List Operation) (hlive : ∀ op ∈ ops, op.ends name = false) :
    AccountsFor ((w.handed name (ops ++ [.receive name])).flatMap Batch.entries)
      ((events id).drop position ++ w.log id ops) := by
  induction ops generalizing w events position with
  | nil =>
    rw [List.nil_append, handed, (h.receive ha).1]
    simpa [handed, log] using AccountsFor.batch ((events id).drop position) _
  | cons op ops ih =>
    have hlive' : ∀ o ∈ ops, o.ends name = false :=
      fun o ho => hlive o (List.mem_cons_of_mem op ho)
    have hperform := h.perform op
    rw [List.cons_append, handed, log]
    by_cases hop : op = .receive name
    · subst hop
      -- The batch accounts for what was unread, and the rest of the run for all that comes after it.
      obtain ⟨hbatch, ha'⟩ := h.receive ha
      rw [published?_receive, Option.toList_none, List.nil_append]
      have hlater := ih hperform (by simpa [published?_receive] using ha') hlive'
      rw [published?_receive, Option.toList_none, List.append_nil, List.drop_length,
        List.nil_append] at hlater
      rw [hbatch, Option.toList_some, List.singleton_append, List.flatMap_cons]
      exact (AccountsFor.batch _ _).append hlater
    · have ha' := h.attends_perform ha (hlive op List.mem_cons_self) hop
      have hlater := ih hperform ha' hlive'
      rw [List.drop_append_of_le_length ha.position_le, List.append_assoc] at hlater
      rwa [handed?_eq_none hop, Option.toList_none, List.nil_append]

theorem measurements_log (hs : w.directory.get? id = some s) (ops : List Operation) :
    SensorEvent.measurements (w.log id ops) = ops.filterMap (Operation.recorded? id) := by
  induction ops generalizing w events s with
  | nil => rfl
  | cons op ops ih =>
    have hhead := measurements_change? id s op
    have htail := ih (h.perform op) (get?_perform h.wellFormed hs op)
    rw [log, SensorEvent.measurements_append, published?_of_get? hs, hhead, htail,
      List.filterMap_cons]
    cases op.recorded? id <;> rfl

theorem registered_after (hs : w.directory.get? id = some s) (ops : List Operation) :
    ∃ s', (w.after ops).directory.get? id = some s' := by
  induction ops generalizing w events s with
  | nil => exact ⟨s, hs⟩
  | cons op ops ih => exact ih (h.perform op) (get?_perform h.wellFormed hs op)

theorem history_after (hs : w.directory.get? id = some s) (ops : List Operation) :
    ∃ s', (w.after ops).directory.get? id = some s' ∧ s'.history.kept =
      (s.history.kept ++ ops.filterMap (Operation.recorded? id)).rtake (max historyCapacity 1) := by
  have hafter := h.after ops
  obtain ⟨s', hs'⟩ := h.registered_after hs ops
  refine ⟨s', hs', ?_⟩
  have hkept := hafter.kept hs'
  rw [hafter.sized hs', SensorEvent.measurements_append, h.measurements_log hs] at hkept
  rw [hkept, h.kept hs, h.sized hs, rtake_rtake_append]

end Logs

theorem receiver?_of_others (h : op.others name) : ∃ n, n ≠ name ∧ op.receiver? = some n := by
  rw [Operation.others] at h
  cases hn : op.receiver? with
  | none => simp [hn] at h
  | some n => exact ⟨n, by simpa [hn] using h, rfl⟩

/-- The same sensors, and the same receiver of a name. -/
structure Alike (name : String) (w w' : Watch) : Prop where
  directory : w.directory = w'.directory
  receiver : w.receivers.lookup name = w'.receivers.lookup name

namespace Alike

variable {w' : Watch}

theorem perform (h : Alike name w w') (hw : w.directory.WellFormed) (op : Operation) :
    Alike name (w.perform op) (w'.perform op) where
  directory := by
    rw [directory_perform hw, directory_perform (h.directory ▸ hw), h.directory]
  receiver := by
    by_cases hown : op.ends name = false ∧ op ≠ .receive name
    · rw [lookup_perform hown.1 hown.2, lookup_perform hown.1 hown.2, h.receiver]
    · cases op with
      | subscribe n i =>
        obtain rfl : n = name := by simpa [Operation.ends] using hown
        cases hs : w'.directory.get? i with
        | none =>
          unfold Watch.perform
          simp only [h.directory, hs, h.receiver]
        | some s =>
          rw [perform_subscribe hs, perform_subscribe (h.directory ▸ hs), subscribe, subscribe,
            lookup_bindName_self, lookup_bindName_self]
      | receive n =>
        obtain rfl : n = name := by simpa [Operation.ends] using hown
        rw [lookup_perform_receive, lookup_perform_receive, h.receiver, h.directory]
      | drop n =>
        obtain rfl : n = name := by simpa [Operation.ends] using hown
        exact (lookup_drop_self w n).trans (lookup_drop_self w' n).symm
      | _ => simp [Operation.ends] at hown

/-- What is done with the receiver of another name might as well not be done. -/
theorem skip (hw : w.directory.WellFormed) {n : String} (hn : op.receiver? = some n)
    (hne : n ≠ name) : Alike name (w.perform op) w where
  directory := by
    rw [directory_perform hw]
    cases op with
    | subscribe | receive | drop => rfl
    | _ => cases hn
  receiver := by
    cases op with
    | subscribe | receive | drop =>
      obtain rfl := Option.some.inj hn
      exact lookup_perform (by simp [Operation.ends, hne]) (by simp [hne])
    | _ => cases hn

theorem trans {w'' : Watch} (h : Alike name w w') (h' : Alike name w' w'') : Alike name w w'' :=
  ⟨h.directory.trans h'.directory, h.receiver.trans h'.receiver⟩

theorem handed?_eq (h : Alike name w w') (op : Operation) : w.handed? name op = w'.handed? name op := by
  cases op with
  | receive n =>
    rw [handed?, handed?]
    split_ifs with hn
    · subst hn
      cases hr : w'.receivers.lookup n with
      | none => rw [receive?_eq_none (h.receiver.trans hr), receive?_eq_none hr]
      | some r =>
        rw [receive?_of_lookup (h.receiver.trans hr), receive?_of_lookup hr, h.directory,
          Option.map_map, Option.map_map]
        rfl
    · rfl
  | _ => rfl

theorem published?_eq (h : Alike name w w') (id : Uuid) (op : Operation) :
    w.published? id op = w'.published? id op := by
  rw [published?, published?, h.directory]

/-- What a receiver is handed, and what its sensor publishes, has nothing to do with the others. -/
theorem handed_eq (h : Alike name w w') {events : Uuid → List SensorEvent}
    (hl : w.Logs historyCapacity eventBuffer events) (id : Uuid) (ops : List Operation) :
    w'.handed name (ops.filter (!·.others name)) = w.handed name ops ∧
      w'.log id (ops.filter (!·.others name)) = w.log id ops := by
  induction ops generalizing w w' events with
  | nil => exact ⟨rfl, rfl⟩
  | cons op ops ih =>
    rw [handed, log]
    by_cases hother : op.others name
    · obtain ⟨n, hne, hn⟩ := receiver?_of_others hother
      have hnone : w.handed? name op = none := by
        apply handed?_eq_none
        rintro rfl
        exact hne (Option.some.inj hn).symm
      rw [List.filter_cons_of_neg (by simp [hother]), hnone, published?_eq_none hn]
      exact ih ((skip hl.wellFormed hn hne).trans h) (hl.perform op)
    · obtain ⟨hhanded, hlog⟩ := ih (h.perform hl.wellFormed op) (hl.perform op)
      rw [List.filter_cons_of_pos (by simp [hother]), handed, log, hhanded, hlog, h.handed?_eq,
        h.published?_eq]
      exact ⟨rfl, rfl⟩

end Alike

/-- What the receiver of a name, which has read everything, is handed of the events of a sensor in
the course of some operations. -/
structure FansOut (w : Watch) (name : String) (id : Uuid) (size : Nat) (ops : List Operation) :
    Prop where
  /-- Up to the last time that it is asked, every event is handed over or counted as lost. -/
  accounted : ∀ asked rest, ops = asked ++ .receive name :: rest → .receive name ∉ rest →
    AccountsFor ((w.handed name ops).flatMap Batch.entries) (w.log id asked)
  unasked : .receive name ∉ ops → w.handed name ops = []
  /-- Only what there is no room for is lost. -/
  pending : ∀ read quiet rest, ops = read ++ quiet ++ .receive name :: rest →
    (read = [] ∨ ∃ earlier, read = earlier ++ [.receive name]) → .receive name ∉ quiet →
    let pending := (w.after read).log id quiet
    (w.after (read ++ quiet)).handed? name (.receive name) =
      some (if pending.length ≤ size then ⟨0, pending⟩
        else ⟨pending.length - size, pending.rtake size⟩)
  ordered : (SensorEvent.measurements ((w.handed name ops).flatMap (·.events))).Sublist
    (ops.filterMap (Operation.recorded? id))
  undisturbed : w.handed name (ops.filter (!·.others name)) = w.handed name ops ∧
    w.log id (ops.filter (!·.others name)) = w.log id ops

theorem Batch.split (pending : List SensorEvent) (size : Nat) :
    (⟨pending.length - size, pending.rtake size⟩ : Batch SensorEvent) =
      if pending.length ≤ size then ⟨0, pending⟩ else ⟨pending.length - size, pending.rtake size⟩ := by
  split_ifs with hle
  · rw [List.rtake, Nat.sub_eq_zero_of_le hle, List.drop_zero]
  · rfl

theorem Logs.fansOut (h : w.Logs historyCapacity eventBuffer events)
    (ha : w.Attends name id (events id) (events id).length) {ops : List Operation}
    (hlive : ∀ op ∈ ops, op.ends name = false) :
    w.FansOut name id (leastPowerOfTwo eventBuffer) ops where
  accounted asked rest hops hrest := by
    subst hops
    have hasked := h.accountsFor_handed ha asked
      fun op hop => hlive op (List.mem_append_left _ hop)
    rw [List.drop_length, List.nil_append] at hasked
    rwa [← List.singleton_append, ← List.append_assoc, handed_append, handed_eq_nil hrest,
      List.append_nil]
  unasked := handed_eq_nil
  pending read quiet rest hops hread hquiet := by
    subst hops
    have hlive' : ∀ op ∈ read ++ quiet, op.ends name = false :=
      fun op hop => hlive op (List.mem_append_left _ hop)
    have hreadAll : (w.after read).Attends name id (events id ++ w.log id read)
        (events id ++ w.log id read).length := by
      rcases hread with rfl | ⟨earlier, rfl⟩
      · simpa [log, Watch.after] using ha
      · obtain ⟨p, hearlier⟩ := h.exists_attends_after ha earlier (by simp_all)
        have hasked := ((h.after earlier).receive hearlier).2
        simpa [log_append, after_append, log, published?_receive, after_cons,
          Watch.after] using hasked
    have hidle := (h.after read).attends_after hreadAll quiet
      (fun op hop => hlive' op (List.mem_append_right _ hop)) hquiet
    have hbatch := (((h.after read).after quiet).receive hidle).1
    rw [List.drop_left, ← after_append] at hbatch
    exact hbatch.trans (congrArg some (Batch.split ..))
  ordered := by
    obtain ⟨s, hs⟩ := ha.registered
    have hall := (h.accountsFor_handed ha ops hlive).sublist
    rw [filterMap_entries, handed_append, List.flatMap_append, List.drop_length,
      List.nil_append] at hall
    rw [← h.measurements_log hs]
    exact ((List.sublist_append_left _ _).trans hall).filterMap _
  undisturbed := (Alike.mk rfl rfl).handed_eq h id ops

/-- Whatever else happens to its sensor and to other receivers, each receiver accounts for every
event since it subscribed, and loses only what there is no room for. -/
theorem receivers_account_for_every_event (historyCapacity eventBuffer : Nat)
    (before during : List Operation) (name : String) (id : Uuid) {s : Sensor}
    (hs : ((Watch.of (.empty historyCapacity eventBuffer)).after before).directory.get? id = some s)
    (hlive : ∀ op ∈ during, op.ends name = false) :
    let w := ((Watch.of (.empty historyCapacity eventBuffer)).after before).perform
      (.subscribe name id)
    let size := leastPowerOfTwo eventBuffer
    (size.isPowerOfTwo ∧ eventBuffer ≤ size ∧
      ∀ n, n.isPowerOfTwo → eventBuffer ≤ n → size ≤ n) ∧
    w.FansOut name id size during ∧
    ∃ s', (w.after during).directory.get? id = some s' ∧
      s'.feed.published = s.feed.published + (w.log id during).length ∧
      s'.feed.kept = (s.feed.kept ++ w.log id during).rtake size ∧
      s'.history.kept =
        (s.history.kept ++ during.filterMap (Operation.recorded? id)).rtake (max historyCapacity 1) := by
  intro w size
  have hbefore := (logs_empty historyCapacity eventBuffer).after before
  have hw := hbefore.perform (.subscribe name id)
  have hattends := hbefore.attends_subscribe name hs
  have hsame : w.directory.get? id = some s := get?_perform hbefore.wellFormed hs (.subscribe name id)
  have hnone : ((Watch.of (.empty historyCapacity eventBuffer)).after before).published? id
      (.subscribe name id) = none := published?_eq_none rfl
  refine ⟨⟨isPowerOfTwo_leastPowerOfTwo _, le_leastPowerOfTwo _, fun n => leastPowerOfTwo_le⟩,
    hw.fansOut (by simpa [hnone] using hattends) hlive, ?_⟩
  obtain ⟨s', hs', hhistory⟩ := hw.history_after hsame during
  have hthen := hw.carries hsame
  have hnow := (hw.after during).carries hs'
  refine ⟨s', hs', ?_, ?_, hhistory⟩
  · rw [hnow.published, hthen.published, List.length_append]
  · rw [hnow.kept, hthen.kept, rtake_rtake_append]

/-- A value that the sensor with the number five measured at the beginning of 1970. -/
def earlyReading (bits : UInt64) : Measurement :=
  ⟨Uuid.text ⟨5⟩, ⟨bits⟩, Host.epoch⟩

/-- Six events before "a" is asked, and one more; "b" is never asked. -/
def crowdedStretch : List Operation :=
  [.subscribe "b" ⟨5⟩, .record ⟨5⟩ (earlyReading 1), .record ⟨5⟩ (earlyReading 2),
    .goOffline ⟨5⟩ .offline, .goOnline ⟨5⟩, .record ⟨5⟩ (earlyReading 3),
    .record ⟨5⟩ (earlyReading 4), .receive "a", .record ⟨5⟩ (earlyReading 5), .receive "a",
    .goOnline ⟨5⟩]

/-- A sensor has gone online in a directory with room for two measurements and three events. -/
def beforeCrowd : Watch :=
  (Watch.of (.empty 2 3)).after [.register ⟨5⟩ ⟨"n", "l", []⟩, .goOnline ⟨5⟩]

theorem receivers_account_for_crowded_stretch :
    let w := beforeCrowd.perform (.subscribe "a" ⟨5⟩)
    w.FansOut "a" ⟨5⟩ 4 crowdedStretch ∧
      w.handed "a" crowdedStretch =
        [⟨2, [.statusChanged (Uuid.text ⟨5⟩) .offline, .statusChanged (Uuid.text ⟨5⟩) .online,
          .measured (earlyReading 3), .measured (earlyReading 4)]⟩,
         ⟨0, [.measured (earlyReading 5)]⟩] ∧
      ∃ s', (w.after crowdedStretch).directory.get? ⟨5⟩ = some s' ∧
        s'.history.kept = [earlyReading 4, earlyReading 5] := by
  obtain ⟨s, hs, hnone⟩ : ∃ s, beforeCrowd.directory.get? ⟨5⟩ = some s ∧ s.history.kept = [] :=
    ⟨_, rfl, rfl⟩
  obtain ⟨-, hfans, s', hs', -, -, hhistory⟩ :=
    receivers_account_for_every_event 2 3 [.register ⟨5⟩ ⟨"n", "l", []⟩, .goOnline ⟨5⟩]
      crowdedStretch "a" ⟨5⟩ hs (by decide)
  rw [hnone] at hhistory
  exact ⟨hfans, rfl, s', hs', hhistory⟩

end Watch

end SensorRelay
