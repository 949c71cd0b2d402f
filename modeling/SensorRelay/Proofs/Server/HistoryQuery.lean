import SensorRelay.Proofs.Chronology
import SensorRelay.Proofs.Server.Retention
import Mathlib.Data.List.Count

/-!
# Queries of a history

A history keeps the last measurements to arrive and shows the newest to be made. What it shows is
the beginning of one list, which is fixed by the order of the instants and, where they are equal,
by the order of arrival.
-/

namespace SensorRelay

/-- Some measurements from the newest to the oldest, and as they arrived where they were made at the
same instant. -/
structure IsNewestFirst (ms sorted : List Measurement) : Prop where
  perm : sorted.Perm ms
  descending : sorted.Pairwise fun a b => ¬ a.madeAt.timestamp.Precedes b.madeAt.timestamp
  stable : ∀ i : Instant, sorted.filter (·.madeAt = i) = ms.filter (·.madeAt = i)

/-- The newest measurements of all that are retained, at most so many. -/
structure IsLatest (retained : List Measurement) (depth : Nat) (answer : List Measurement) :
    Prop where
  length : answer.length = min depth retained.length
  descending : answer.Pairwise fun a b => ¬ a.madeAt.timestamp.Precedes b.madeAt.timestamp
  subperm : answer.Subperm retained
  complete : ∀ a ∈ answer, ∀ m ∈ retained,
    a.madeAt.timestamp.Precedes m.madeAt.timestamp → answer.count m = retained.count m
  arrival : ∀ i : Instant, answer.filter (·.madeAt = i) <+: retained.filter (·.madeAt = i)

variable {ms l l' : List Measurement} {a b : Measurement}

theorem not_precedes_iff :
    ¬ a.madeAt.timestamp.Precedes b.madeAt.timestamp ↔ a.madeAt.before b.madeAt = false := by
  rw [← Instant.before_iff, Bool.not_eq_true]

theorem mem_of_filter_eq (h : ∀ i : Instant, l.filter (·.madeAt = i) = l'.filter (·.madeAt = i))
    (ha : a ∈ l) : a ∈ l' := by
  have hmem : a ∈ l.filter (·.madeAt = a.madeAt) := List.mem_filter.mpr ⟨ha, by simp⟩
  rw [h] at hmem
  exact (List.mem_filter.mp hmem).1

/-- Lists in descending order are equal if they agree on every instant. -/
theorem eq_of_filter_eq (hl : l.Pairwise fun a b => a.madeAt.before b.madeAt = false)
    (hl' : l'.Pairwise fun a b => a.madeAt.before b.madeAt = false)
    (h : ∀ i : Instant, l.filter (·.madeAt = i) = l'.filter (·.madeAt = i)) : l = l' := by
  induction l generalizing l' with
  | nil =>
    cases l' with
    | nil => rfl
    | cons b l' => cases mem_of_filter_eq (fun i => (h i).symm) List.mem_cons_self
  | cons a l ih =>
    cases l' with
    | nil => cases mem_of_filter_eq h List.mem_cons_self
    | cons b l' =>
      obtain ⟨hal, hl⟩ := List.pairwise_cons.mp hl
      obtain ⟨hbl, htail⟩ := List.pairwise_cons.mp hl'
      -- neither head is newer than the other, for each stands in both lists
      have hinstant : a.madeAt = b.madeAt := by
        rcases List.mem_cons.mp (mem_of_filter_eq h List.mem_cons_self) with rfl | ha
        · rfl
        rcases List.mem_cons.mp (mem_of_filter_eq (fun i => (h i).symm) List.mem_cons_self) with
          rfl | hb
        · rfl
        exact Instant.eq_of_not_before (hal b hb) (hbl a ha)
      have hheads := h a.madeAt
      simp only [List.filter_cons, hinstant, decide_true, if_true, List.cons.injEq] at hheads
      obtain rfl := hheads.1
      refine congrArg (a :: ·) (ih hl htail fun i => ?_)
      have hi := h i
      by_cases ha : a.madeAt = i <;> simpa [List.filter_cons, ha] using hi

theorem IsNewestFirst.unique (hl : IsNewestFirst ms l) (hl' : IsNewestFirst ms l') : l = l' :=
  eq_of_filter_eq (hl.descending.imp not_precedes_iff.mp) (hl'.descending.imp not_precedes_iff.mp)
    fun i => (hl.stable i).trans (hl'.stable i).symm

namespace IsNewestFirst

variable {sorted : List Measurement} (h : IsNewestFirst ms sorted)

include h

/-- What is left out is no newer than what is shown. -/
theorem count_take {depth : Nat} {m : Measurement} (ha : a ∈ sorted.take depth)
    (hm : a.madeAt.timestamp.Precedes m.madeAt.timestamp) :
    (sorted.take depth).count m = ms.count m := by
  have hdescending := h.descending
  rw [← List.take_append_drop depth sorted, List.pairwise_append] at hdescending
  have hleft : m ∉ sorted.drop depth := fun hmem => hdescending.2.2 a ha m hmem hm
  rw [← h.perm.count_eq m, ← List.take_append_drop depth sorted, List.count_append,
    List.count_eq_zero_of_not_mem hleft, Nat.add_zero, List.take_append_drop]

theorem isLatest_take (depth : Nat) : IsLatest ms depth (sorted.take depth) where
  length := by rw [List.length_take, h.perm.length_eq]
  descending := h.descending.sublist (List.take_sublist depth sorted)
  subperm := (List.take_sublist depth sorted).subperm.trans h.perm.subperm
  complete _ ha _ _ hm := h.count_take ha hm
  arrival i := by
    rw [← h.stable i]
    exact (List.take_prefix depth sorted).filter _

end IsNewestFirst

namespace History

/-- No newer measurement comes after an older one. -/
def inOrder (a b : Measurement) : Bool :=
  !a.madeAt.before b.madeAt

theorem inOrder_iff : inOrder a b = true ↔ a.madeAt.before b.madeAt = false := by
  rw [inOrder, Bool.not_eq_true']

theorem inOrder_trans (a b c : Measurement) (hab : inOrder a b = true) (hbc : inOrder b c = true) :
    inOrder a c = true := by
  rw [inOrder_iff] at *
  exact Instant.not_before_trans hab hbc

theorem inOrder_total (a b : Measurement) : (inOrder a b || inOrder b a) = true := by
  rw [Bool.or_eq_true, inOrder_iff, inOrder_iff]
  exact Instant.not_before_total a.madeAt b.madeAt

theorem newestFirst_perm (ms : List Measurement) : (newestFirst ms).Perm ms :=
  List.mergeSort_perm ms inOrder

/-- What was made at one instant is in order already, so it comes out as it went in. -/
theorem filter_newestFirst (ms : List Measurement) (i : Instant) :
    (newestFirst ms).filter (·.madeAt = i) = ms.filter (·.madeAt = i) := by
  have hinstant : ∀ a ∈ ms.filter (·.madeAt = i), a.madeAt = i :=
    fun a ha => by simpa using (List.mem_filter.mp ha).2
  have hsorted : (ms.filter (·.madeAt = i)).Pairwise fun a b => inOrder a b = true := by
    refine List.pairwise_of_forall_mem_list fun a ha b hb => ?_
    rw [inOrder_iff, hinstant a ha, hinstant b hb, Instant.before_self]
  have hsub := (List.sublist_mergeSort inOrder_trans inOrder_total hsorted
    List.filter_sublist).filter (·.madeAt = i)
  rw [List.filter_eq_self.mpr fun a ha => by simpa using hinstant a ha] at hsub
  exact (hsub.eq_of_length ((newestFirst_perm ms).filter _).length_eq.symm).symm

theorem isNewestFirst_newestFirst (ms : List Measurement) :
    IsNewestFirst ms (newestFirst ms) where
  perm := newestFirst_perm ms
  descending := (List.pairwise_mergeSort inOrder_trans inOrder_total ms).imp fun hab =>
    not_precedes_iff.mpr (inOrder_iff.mp hab)
  stable := filter_newestFirst ms

/-- The history once more measurements have arrived. -/
def pushAll (h : History) (ms : List Measurement) : History :=
  ms.foldl push h

theorem kept_pushAll {h : History} (hl : h.kept = l.rtake h.window.capacity)
    (ms : List Measurement) : (h.pushAll ms).kept = (l ++ ms).rtake h.window.capacity := by
  induction ms generalizing h l with
  | nil => rwa [List.append_nil]
  | cons m ms ih =>
    have hcapacity : (h.push m).window.capacity = h.window.capacity := h.window.capacity_push m
    have hpush : (h.push m).kept = (l ++ [m]).rtake h.window.capacity :=
      Window.toList_push_rtake hl m
    rw [← hcapacity] at hpush ⊢
    have hrest := ih hpush
    rwa [List.append_assoc] at hrest

theorem kept_pushAll_empty (capacity : Nat) (ms : List Measurement) :
    ((empty capacity).pushAll ms).kept = ms.rtake (max capacity 1) :=
  kept_pushAll (h := empty capacity) (l := []) (List.rtake_nil _).symm ms

/-- However many measurements have arrived, a query shows the beginning of the one order of those
that are retained. -/
theorem latest_after_pushes (capacity : Nat) (ms : List Measurement) :
    let h := (empty capacity).pushAll ms
    let retained := ms.rtake (max capacity 1)
    h.size = min ms.length (max capacity 1) ∧
    (∃ sorted, IsNewestFirst retained sorted ∧
      (∀ other, IsNewestFirst retained other → other = sorted) ∧
      ∀ depth, h.latest depth = sorted.take depth) ∧
    (∀ depth, IsLatest retained depth (h.latest depth)) ∧
    ∀ depth depth', depth ≤ depth' → h.latest depth <+: h.latest depth' := by
  intro h retained
  have hkept : h.kept = retained := kept_pushAll_empty capacity ms
  have hsorted := isNewestFirst_newestFirst retained
  have hlatest : ∀ depth, h.latest depth = (newestFirst retained).take depth := by
    intro depth
    rw [latest, hkept]
  refine ⟨?_, ⟨_, hsorted, fun other hother => hother.unique hsorted, hlatest⟩, ?_, ?_⟩
  · have hsize : h.kept.length = h.size := h.window.length_toList
    rw [← hsize, hkept]
    simp only [retained, List.rtake, List.length_drop]
    omega
  · intro depth
    rw [hlatest]
    exact hsorted.isLatest_take depth
  · intro depth depth' hle
    rw [hlatest, hlatest]
    exact List.take_prefix_take_left hle

end History
end SensorRelay
