import SensorRelay.Server.Directory
import Mathlib.Tactic.SplitIfs

/-!
# Looking up sensors

The index of a directory and its list of sensors describe one finite map. Registering adds a key to
it, and replacing a sensor changes the value at its key only.
-/

namespace SensorRelay.Directory

variable {d d' : Directory} {id j : Uuid} {r : SensorRegistration} {s s' : Sensor}

/-- The index leads from every id to the sensor of that id, and to every sensor. -/
structure WellFormed (d : Directory) : Prop where
  placed : ∀ {id k}, d.index.lookup id = some k → ∃ s, d.sensors[k]? = some s ∧ s.id = id
  indexed : ∀ {k s}, d.sensors[k]? = some s → d.index.lookup s.id = some k

theorem wellFormed_empty (historyCapacity eventBuffer : Nat) :
    (empty historyCapacity eventBuffer).WellFormed where
  placed h := by simp [empty] at h
  indexed h := by simp [empty] at h

/-- Is there a sensor of that id? -/
def has (d : Directory) (id : Uuid) : Bool :=
  (d.get? id).isSome

theorem has_iff : d.has id = true ↔ ∃ s, d.get? id = some s :=
  Option.isSome_iff_exists

theorem get?_eq_some_iff :
    d.get? id = some s ↔ ∃ k, d.index.lookup id = some k ∧ d.sensors[k]? = some s :=
  Option.bind_eq_some_iff

theorem WellFormed.id_of_get? (hd : d.WellFormed) (h : d.get? id = some s) : s.id = id := by
  obtain ⟨k, hk, hs⟩ := get?_eq_some_iff.mp h
  obtain ⟨t, ht, hid⟩ := hd.placed hk
  rw [hs] at ht
  cases ht
  exact hid

theorem WellFormed.mem_sensors_iff (hd : d.WellFormed) :
    s ∈ d.sensors ↔ d.get? s.id = some s := by
  rw [List.mem_iff_getElem?, get?_eq_some_iff]
  constructor
  · rintro ⟨k, hk⟩
    exact ⟨k, hd.indexed hk, hk⟩
  · rintro ⟨k, -, hk⟩
    exact ⟨k, hk⟩

theorem set_of_lookup {k : Nat} (hk : d.index.lookup id = some k) :
    d.set id s' = { d with sensors := d.sensors.set k s' } := by
  simp only [set, hk]

theorem WellFormed.get?_set (hd : d.WellFormed) (h : d.get? id = some s) :
    (d.set id s').get? j = if j = id then some s' else d.get? j := by
  obtain ⟨k, hk, hs⟩ := get?_eq_some_iff.mp h
  have hlt : k < d.sensors.length := (List.getElem?_eq_some_iff.mp hs).1
  rw [set_of_lookup hk]
  by_cases hj : j = id
  · subst hj
    simp [get?, hk, hlt]
  · rw [if_neg hj]
    simp only [get?]
    cases hl : d.index.lookup j with
    | none => rfl
    | some l =>
      have hne : k ≠ l := by
        rintro rfl
        obtain ⟨t, ht, htid⟩ := hd.placed hl
        rw [hs] at ht
        cases ht
        exact hj (htid.symm.trans (hd.id_of_get? h))
      simp [hne]

theorem WellFormed.set (hd : d.WellFormed) (h : d.get? id = some s) (hid : s'.id = id) :
    (d.set id s').WellFormed := by
  obtain ⟨k, hk, hs⟩ := get?_eq_some_iff.mp h
  have hlt : k < d.sensors.length := (List.getElem?_eq_some_iff.mp hs).1
  rw [set_of_lookup hk]
  constructor
  · intro i l hl
    obtain ⟨t, ht, htid⟩ := hd.placed hl
    by_cases hkl : k = l
    · subst hkl
      rw [hs] at ht
      cases ht
      exact ⟨s', by simp [hlt], hid.trans ((hd.id_of_get? h).symm.trans htid)⟩
    · exact ⟨t, by simpa [hkl] using ht, htid⟩
  · intro l t ht
    by_cases hkl : k = l
    · subst hkl
      simp only [List.getElem?_set_self hlt, Option.some.injEq] at ht
      subst ht
      exact hid.symm ▸ hk
    · exact hd.indexed (by simpa [hkl] using ht)

theorem capacities_modify (d : Directory) (id : Uuid) (f : Sensor → Sensor) :
    (d.modify id f).historyCapacity = d.historyCapacity ∧
      (d.modify id f).eventBuffer = d.eventBuffer := by
  unfold modify set
  split
  · split <;> exact ⟨rfl, rfl⟩
  · exact ⟨rfl, rfl⟩

section Modify

variable {f : Sensor → Sensor} (hf : ∀ s, (f s).id = s.id)

theorem WellFormed.get?_modify (hd : d.WellFormed) :
    (d.modify id f).get? j = if j = id then (d.get? id).map f else d.get? j := by
  unfold modify
  cases h : d.get? id with
  | none =>
    by_cases hj : j = id
    · simp [hj, h]
    · simp [hj]
  | some s => exact hd.get?_set h

include hf in
theorem WellFormed.modify (hd : d.WellFormed) : (d.modify id f).WellFormed := by
  unfold Directory.modify
  cases h : d.get? id with
  | none => exact hd
  | some s => exact hd.set h ((hf s).trans (hd.id_of_get? h))

end Modify

theorem register_eq_ok_iff :
    d.register id r = .ok d' ↔ d.isTaken id r = false ∧ d.hasRoom = true ∧
      { d with
        sensors := d.sensors ++ [.registered id r d.historyCapacity d.eventBuffer]
        index := (id, d.sensors.length) :: d.index } = d' := by
  unfold register
  split_ifs with ht hr
  · simp [ht]
  · simp_all
  · simp_all

theorem WellFormed.get?_of_register (hd : d.WellFormed) (h : d.register id r = .ok d') :
    d.get? id = none := by
  obtain ⟨ht, -, -⟩ := register_eq_ok_iff.mp h
  rw [Option.eq_none_iff_forall_ne_some]
  intro s hs
  have hid := hd.id_of_get? hs
  have hmem : s ∈ d.sensors := hd.mem_sensors_iff.mpr (hid.symm ▸ hs)
  have hany := List.any_eq_false.mp ht s hmem
  simp [hid] at hany

theorem WellFormed.get?_register (hd : d.WellFormed) (h : d.register id r = .ok d') :
    d'.get? j =
      if j = id then some (.registered id r d.historyCapacity d.eventBuffer) else d.get? j := by
  obtain ⟨-, -, rfl⟩ := register_eq_ok_iff.mp h
  by_cases hj : j = id
  · subst hj
    simp [get?]
  · have hne : (j == id) = false := by simpa using hj
    rw [if_neg hj]
    simp only [get?, List.lookup_cons, hne]
    cases hl : d.index.lookup j with
    | none => rfl
    | some l =>
      obtain ⟨t, ht, -⟩ := hd.placed hl
      have hlt : l < d.sensors.length := (List.getElem?_eq_some_iff.mp ht).1
      simp [List.getElem?_append_left hlt]

theorem WellFormed.register (hd : d.WellFormed) (h : d.register id r = .ok d') :
    d'.WellFormed := by
  have hnone := hd.get?_of_register h
  obtain ⟨-, -, rfl⟩ := register_eq_ok_iff.mp h
  constructor
  · intro i l hl
    by_cases hi : i = id
    · subst hi
      simp only [List.lookup_cons_self, Option.some.injEq] at hl
      subst hl
      exact ⟨.registered i r d.historyCapacity d.eventBuffer, by simp, rfl⟩
    · have hne : (i == id) = false := by simpa using hi
      simp only [List.lookup_cons, hne] at hl
      obtain ⟨t, ht, htid⟩ := hd.placed hl
      have hlt : l < d.sensors.length := (List.getElem?_eq_some_iff.mp ht).1
      exact ⟨t, by simpa [List.getElem?_append_left hlt] using ht, htid⟩
  · intro l t ht
    rcases Nat.lt_trichotomy l d.sensors.length with hlt | rfl | hgt
    · rw [List.getElem?_append_left hlt] at ht
      have hl := hd.indexed ht
      have hne : t.id ≠ id := by
        rintro rfl
        rw [get?_eq_some_iff.mpr ⟨l, hl, ht⟩] at hnone
        cases hnone
      have hbeq : (t.id == id) = false := by simpa using hne
      simpa [List.lookup_cons, hbeq] using hl
    · simp only [List.getElem?_concat_length, Option.some.injEq] at ht
      subst ht
      simp [Sensor.registered]
    · simp [List.getElem?_eq_none_iff.mpr (show (d.sensors ++ [_]).length ≤ l by simp; omega)] at ht

end SensorRelay.Directory
