import SensorRelay.Proofs.Server.Change
import SensorRelay.Proofs.Server.Directory

/-!
# News

What was published since an earlier time is read off the feeds: a receiver that had read every feed
to its end is handed it now. Registering a sensor is no news. A change of one sensor is one event
in one feed, and no receiver loses it.
-/

namespace SensorRelay

namespace Directory

variable {d d' before : Directory} {id j : Uuid} {r : SensorRegistration} {e : SensorEvent}

/-- What a receiver of a sensor's events is handed that had read all of them in an earlier
directory. -/
def newsSince (d before : Directory) (id : Uuid) : Batch SensorEvent :=
  match d.get? id with
  | some s => s.feed.receive ((before.get? id).elim 0 (·.feed.published))
  | none => ⟨0, []⟩

/-- The first event that was published since an earlier directory, and its sensor. -/
def publishedSince (d before : Directory) : Option (Uuid × SensorEvent) :=
  d.sensors.findSome? fun s => (d.newsSince before s.id).events.head?.map (s.id, ·)

theorem newsSince_self (d : Directory) (id : Uuid) : d.newsSince d id = ⟨0, []⟩ := by
  unfold newsSince
  cases d.get? id with
  | none => rfl
  | some s => exact s.feed.receive_published

theorem WellFormed.newsSince_register (hd : d.WellFormed) (h : d.register id r = .ok d')
    (j : Uuid) : d'.newsSince d j = ⟨0, []⟩ := by
  have hself := d.newsSince_self j
  unfold newsSince at hself ⊢
  rw [hd.get?_register h]
  split_ifs with hj
  · rw [hj, hd.get?_of_register h]
    rfl
  · exact hself

theorem WellFormed.newsSince_modify (hd : d.WellFormed)
    (hready : ∀ {j s}, d.get? j = some s → 0 < s.feed.window.capacity)
    (hid : (d.get? id).isSome) (c : Sensor.Change) (j : Uuid) :
    (d.modify id c.apply).newsSince d j = ⟨0, if id = j then [c.event id] else []⟩ := by
  have hself := d.newsSince_self j
  unfold newsSince at hself ⊢
  rw [hd.get?_modify]
  by_cases hj : j = id
  · subst hj
    obtain ⟨s, hs⟩ := Option.isSome_iff_exists.mp hid
    rw [if_pos rfl, if_pos rfl, hs, ← hd.id_of_get? hs]
    simp only [Option.map_some, Option.elim_some, Sensor.Change.feed_apply]
    exact s.feed.receive_publish (hready hs) _
  · rw [if_neg hj, if_neg (Ne.symm hj)]
    exact hself

theorem publishedSince_eq_none (h : ∀ j, (d.newsSince before j).events = []) :
    d.publishedSince before = none := by
  rw [publishedSince, List.findSome?_eq_none_iff]
  intro s _
  rw [h]
  rfl

theorem publishedSince_self (d : Directory) : d.publishedSince d = none :=
  publishedSince_eq_none fun j => congrArg Batch.events (d.newsSince_self j)

theorem WellFormed.publishedSince_eq_some (hd : d.WellFormed) (hid : (d.get? id).isSome)
    (h : ∀ j, (d.newsSince before j).events = if id = j then [e] else []) :
    d.publishedSince before = some (id, e) := by
  have hsensor (s : Sensor) : (d.newsSince before s.id).events.head?.map (s.id, ·) =
      if id = s.id then some (id, e) else none := by
    rw [h]
    split_ifs with hs
    · rw [hs]
      rfl
    · rfl
  obtain ⟨s, hs⟩ := Option.isSome_iff_exists.mp hid
  have hsid := hd.id_of_get? hs
  have hfound : (d.publishedSince before).isSome := by
    rw [publishedSince, List.findSome?_isSome_iff]
    refine ⟨s, hd.mem_sensors_iff.mpr (hsid ▸ hs), ?_⟩
    rw [hsensor, if_pos hsid.symm]
    rfl
  obtain ⟨x, hx⟩ := Option.isSome_iff_exists.mp hfound
  obtain ⟨t, -, ht⟩ := List.exists_of_findSome?_eq_some hx
  rw [hsensor] at ht
  split_ifs at ht
  exact hx.trans ht.symm

end Directory
end SensorRelay
