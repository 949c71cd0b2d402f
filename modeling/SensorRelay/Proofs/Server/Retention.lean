import SensorRelay.Proofs.Server.Delivery
import Mathlib.Data.List.DropRight

/-!
# What a history retains

Of all measurements that were ever published on a sensor its history has the last ones, as many as
it has room for.
-/

namespace SensorRelay

theorem rtake_rtake_append {α : Type} (l more : List α) (n : Nat) :
    (l.rtake n ++ more).rtake n = (l ++ more).rtake n := by
  have hle : l.length - n ≤ l.length := Nat.sub_le _ _
  rw [List.rtake, List.rtake, List.rtake, ← List.drop_append_of_le_length hle, List.drop_drop,
    List.length_drop, List.length_append]
  congr 1
  omega

namespace Window

variable {α : Type}

theorem rtake_toList (w : Window α) : w.toList.rtake w.capacity = w.toList := by
  rw [List.rtake, length_toList, Nat.sub_eq_zero_of_le w.size_le, List.drop_zero]

theorem toList_push_eq_rtake (w : Window α) (a : α) :
    (w.push a).toList = (w.toList ++ [a]).rtake w.capacity := by
  rw [toList_push, List.rtake, List.length_append, List.length_singleton, length_toList]

/-- A window that has the end of a sequence still has it when both are one longer. -/
theorem toList_push_rtake {w : Window α} {l : List α} (h : w.toList = l.rtake w.capacity) (a : α) :
    (w.push a).toList = (l ++ [a]).rtake w.capacity := by
  rw [toList_push_eq_rtake, h, rtake_rtake_append]

end Window

/-- An item is still there while fewer than `n` others came after it. -/
theorem mem_rtake_of_lt {α : Type} {n : Nat} {a : α} {l later : List α} (h : later.length < n) :
    a ∈ (l ++ a :: later).rtake n := by
  have hle : (l ++ a :: later).length - n ≤ l.length := by
    rw [List.length_append, List.length_cons]
    omega
  rw [List.rtake, List.drop_append_of_le_length hle]
  exact List.mem_append_right _ List.mem_cons_self

namespace SensorEvent

def measurement? : SensorEvent → Option Measurement
  | statusChanged .. => none
  | measured m => some m

/-- The measurements among some events. -/
def measurements (es : List SensorEvent) : List Measurement :=
  es.filterMap measurement?

theorem mem_measurements_iff {m : Measurement} {es : List SensorEvent} :
    m ∈ measurements es ↔ .measured m ∈ es := by
  unfold measurements
  rw [List.mem_filterMap]
  constructor
  · rintro ⟨e, he, hm⟩
    cases e with
    | statusChanged id status => cases hm
    | measured m' =>
      obtain rfl := Option.some.inj hm
      exact he
  · intro h
    exact ⟨_, h, rfl⟩

theorem measurements_append (es fs : List SensorEvent) :
    measurements (es ++ fs) = measurements es ++ measurements fs :=
  List.filterMap_append

end SensorEvent

theorem History.kept_eq_rtake (h : History) :
    h.kept = (h.kept ++ SensorEvent.measurements []).rtake h.window.capacity := by
  have hnone : SensorEvent.measurements [] = [] := rfl
  rw [hnone, List.append_nil]
  exact h.window.rtake_toList.symm

namespace Sensor.Change

variable (c : Change) (s : Sensor)

/-- A change puts into the history what it publishes as a measurement. -/
theorem kept_history_apply (id : Uuid) : (c.apply s).history.kept =
    (s.history.kept ++ SensorEvent.measurements [c.event id]).rtake s.history.window.capacity := by
  cases c with
  | record m => exact s.history.window.toList_push_eq_rtake m
  | goOnline => exact s.history.kept_eq_rtake
  | goOffline announced => exact s.history.kept_eq_rtake

theorem history_apply {es : List SensorEvent} {id : Uuid}
    (h : s.history.kept = (SensorEvent.measurements es).rtake s.history.window.capacity) :
    (c.apply s).history.kept =
      (SensorEvent.measurements (es ++ [c.event id])).rtake s.history.window.capacity := by
  rw [kept_history_apply c s id, h, rtake_rtake_append, SensorEvent.measurements_append]

end Sensor.Change

namespace Host

open Auth Entry

variable {h : Host} {capacity : Nat} {events : Uuid → List SensorEvent}

/-- The history of a sensor goes on by what its feed takes as measurements. -/
theorem Sound.history_step (hh : h.Sound) {a : Action} {id : Uuid} {s s' : Sensor}
    (hs : h.server.directory.get? id = some s)
    (hs' : (h.step a).2.server.directory.get? id = some s') :
    s'.history.kept = (s.history.kept ++ SensorEvent.measurements (h.news a id).events).rtake
      s.history.window.capacity := by
  rw [hh.news_eq]
  rcases hh.get?_step hs' with ⟨-, hnone, -⟩ | ⟨t, ht, rfl⟩
  · rw [hs] at hnone
    cases hnone
  · obtain rfl := Option.some.inj (hs.symm.trans ht)
    cases h.change? a with
    | none => exact s.history.kept_eq_rtake
    | some e =>
      obtain ⟨i, c⟩ := e
      by_cases hi : i = id
      · simp only [if_pos hi, if_pos hi.symm]
        exact c.kept_history_apply s i
      · simp only [if_neg hi, if_neg (Ne.symm hi)]
        exact s.history.kept_eq_rtake

theorem historyCapacity_step (h : Host) (a : Action) :
    (h.step a).2.server.directory.historyCapacity = h.server.directory.historyCapacity := by
  rcases h.directory_step a with ⟨-, hd⟩ | ⟨r, o, -, hd⟩ | ⟨id, c, -, hd⟩
  · rw [hd]
  · obtain ⟨-, -, heq⟩ := Directory.register_eq_ok_iff.mp hd
    rw [← heq]
  · rw [hd]
    exact (h.server.directory.capacities_modify id c.apply).1

/-- Every history has the end of the log of its sensor. -/
structure Retains (h : Host) (capacity : Nat) (events : Uuid → List SensorEvent) : Prop where
  historyCapacity_eq : h.server.directory.historyCapacity = capacity
  sized : ∀ {id s}, h.server.directory.get? id = some s →
    s.history.window.capacity = max capacity 1
  kept : ∀ {id s}, h.server.directory.get? id = some s →
    s.history.kept = (SensorEvent.measurements (events id)).rtake s.history.window.capacity

theorem retains_fresh (issuer : Issuer) (historyCapacity eventBuffer : Nat) :
    (fresh issuer historyCapacity eventBuffer).Retains historyCapacity fun _ => [] where
  historyCapacity_eq := rfl
  sized hs := by simp [fresh, Server.empty, Directory.empty, Directory.get?] at hs
  kept hs := by simp [fresh, Server.empty, Directory.empty, Directory.get?] at hs

theorem Retains.step (hr : h.Retains capacity events) (hl : h.Logged events) (hh : h.Sound)
    (a : Action) : (h.step a).2.Retains capacity
      fun id => events id ++ (h.step a).1.entries.filterMap (event? id) where
  historyCapacity_eq := (h.historyCapacity_step a).trans hr.historyCapacity_eq
  sized {id s'} hs' := by
    refine hh.forall_get?_step (P := fun s => s.history.window.capacity = max capacity 1) ?_ ?_
      hr.sized hs'
    · intro j r
      rw [hr.historyCapacity_eq]
      rfl
    · intro c s hs
      rwa [Sensor.Change.historyCapacity_apply]
  kept {id s'} hs' := by
    rw [filterMap_event?_entries hh]
    rcases hh.get?_step hs' with ⟨hc, hnone, r, rfl⟩ | ⟨s, hs, rfl⟩
    · rw [hc, hl.unregistered hnone]
      exact (List.rtake_nil _).symm
    · have hkept := hr.kept hs
      cases hc : h.change? a with
      | none => simpa using hkept
      | some e =>
        by_cases hi : e.1 = id
        · simp only [if_pos hi, if_pos hi.symm, Sensor.Change.historyCapacity_apply]
          exact Sensor.Change.history_apply _ s hkept
        · simpa [hi, Ne.symm hi] using hkept

theorem Retains.after (hr : h.Retains capacity events) (hl : h.Logged events) (hh : h.Sound)
    (as : List Action) : (h.after as).Retains capacity
      fun id => events id ++ (h.journal as).filterMap (event? id) := by
  induction as generalizing h events with
  | nil => simpa [journal, run] using hr
  | cons a as ih =>
    have hrest := ih (hr.step hl hh a) (hl.step hh a) (hh.step a)
    simpa [journal, run, List.filterMap_append, List.append_assoc] using hrest

/-- The events that a run publishes on a sensor. -/
def log (h : Host) (as : List Action) (id : Uuid) : List SensorEvent :=
  (h.journal as).filterMap (event? id)

@[simp] theorem log_nil (h : Host) (id : Uuid) : h.log [] id = [] := rfl

theorem log_cons (hh : h.Sound) (a : Action) (as : List Action) (id : Uuid) :
    h.log (a :: as) id = (match h.change? a with
      | some (i, c) => if i = id then [c.event i] else []
      | none => []) ++ (h.step a).2.log as id := by
  rw [log, journal, moments_cons, List.flatMap_cons, List.filterMap_append,
    filterMap_event?_entries hh]
  rfl

theorem log_append (h : Host) (as bs : List Action) (id : Uuid) :
    h.log (as ++ bs) id = h.log as id ++ (h.after as).log bs id := by
  induction as generalizing h with
  | nil => rfl
  | cons a as ih =>
    have hrest := ih (h.step a).2
    simp only [log, journal, List.cons_append, moments_cons, List.flatMap_cons,
      List.filterMap_append] at hrest ⊢
    rw [hrest, List.append_assoc, after_cons]

/-- The history of a sensor has the last measurements that were published on it. -/
theorem history_after (issuer : Issuer) (historyCapacity eventBuffer : Nat) (as : List Action)
    {id : Uuid} {s : Sensor}
    (hs : ((fresh issuer historyCapacity eventBuffer).after as).server.directory.get? id =
      some s) :
    s.history.kept =
      (SensorEvent.measurements ((fresh issuer historyCapacity eventBuffer).log as id)).rtake
        (max historyCapacity 1) := by
  have hsound := sound_fresh issuer historyCapacity eventBuffer
  have hlogged := logged_fresh issuer historyCapacity eventBuffer
  have hretains := (retains_fresh issuer historyCapacity eventBuffer).after hlogged hsound as
  rw [← hretains.sized hs]
  exact hretains.kept hs

end Host
end SensorRelay
