import SensorRelay.Client.Query
import SensorRelay.Proofs.Server.Run
import SensorRelay.Server.Operator
import SensorRelay.Server.Watch
import Mathlib.Data.List.Nodup

/-!
# The directory as a list of registrations

A directory stands for the list of the registrations that it accepted, each with the present status
of its sensor. A registration is appended to the list, and whatever else happens to a sensor changes
its status at most. So what a client is shown is that list.
-/

namespace SensorRelay

/-- An accepted registration and the present status of its sensor. -/
structure Listing where
  id : Uuid
  registration : SensorRegistration
  status : OnlineStatus

namespace Listing

variable (l : Listing)

/-- A name and a location, which no two sensors have in common. -/
def place : String × String :=
  (l.registration.name, l.registration.location)

/-- What never changes. -/
def registered : Uuid × SensorRegistration :=
  (l.id, l.registration)

def isFoundBy (tags : List String) : Bool :=
  decide (tags = [] ∨ ∃ t ∈ l.registration.tags, t ∈ tags)

theorem isFoundBy_iff {l : Listing} {tags : List String} :
    l.isFoundBy tags = true ↔ tags = [] ∨ ∃ t ∈ l.registration.tags, t ∈ tags :=
  decide_eq_true_iff

/-- What a client is shown of it. -/
def summary : SensorSummary :=
  ⟨l.id.text, l.registration.name, l.registration.location, l.registration.tags, l.status⟩

/-- Is the id or the place already given? -/
def isTaken (ls : List Listing) (id : Uuid) (r : SensorRegistration) : Bool :=
  ls.any fun l =>
    l.id = id || (l.registration.name = r.name && l.registration.location = r.location)

theorem isTaken_iff {ls : List Listing} {id : Uuid} {r : SensorRegistration} :
    isTaken ls id r = true ↔ ∃ l ∈ ls, l.id = id ∨ l.place = (r.name, r.location) := by
  simp [isTaken, place]

/-- Changes the status if it is the listing of that id. -/
def update (id : Uuid) (u : OnlineStatus → OnlineStatus) : Listing :=
  if l.id = id then { l with status := u l.status } else l

@[simp] theorem id_update (id : Uuid) (u : OnlineStatus → OnlineStatus) :
    (l.update id u).id = l.id := by
  unfold update
  split_ifs <;> rfl

@[simp] theorem registration_update (id : Uuid) (u : OnlineStatus → OnlineStatus) :
    (l.update id u).registration = l.registration := by
  unfold update
  split_ifs <;> rfl

@[simp] theorem place_update (id : Uuid) (u : OnlineStatus → OnlineStatus) :
    (l.update id u).place = l.place := by
  unfold place
  rw [registration_update]

@[simp] theorem registered_update (id : Uuid) (u : OnlineStatus → OnlineStatus) :
    (l.update id u).registered = l.registered := by
  unfold registered
  rw [id_update, registration_update]

theorem update_id (id : Uuid) : l.update id (fun status => status) = l := by
  unfold update
  split_ifs <;> rfl

end Listing

def Sensor.listing (s : Sensor) : Listing :=
  ⟨s.id, ⟨s.name, s.location, s.tags⟩, s.status⟩

namespace Watch

/-- What is done to the sensors of a directory and to the receivers of their feeds. -/
inductive Operation
  | register (id : Uuid) (r : SensorRegistration)
  | goOnline (id : Uuid)
  | goOffline (id : Uuid) (announced : OnlineStatus)
  | record (id : Uuid) (m : Measurement)
  | subscribe (name : String) (id : Uuid)
  | receive (name : String)
  | drop (name : String)

variable (w : Watch)

/-- Replaces the sensor of that id, if there is one, by what is made of it. -/
def onSensor (id : Uuid) (f : Sensor → Sensor) : Watch :=
  match w.directory.get? id with
  | some s => w.setSensor (f s)
  | none => w

def perform : Operation → Watch
  | .register id r =>
    match w.directory.register id r with
    | .ok d => { w with directory := d }
    | .error _ => w
  | .goOnline id => w.onSensor id fun s => (Server.tryOnline s).2
  | .goOffline id announced => w.onSensor id fun s => (Server.takeOffline announced s).2
  | .record id m => w.onSensor id (·.record m)
  | .subscribe name id =>
    match w.directory.get? id with
    | some s => w.subscribe name s
    | none => w
  | .receive name =>
    match w.receive? name with
    | some p => p.2
    | none => w
  | .drop name => (w.drop name).2

def after (ops : List Operation) : Watch :=
  ops.foldl perform w

/-- What an operation does to the list. Nothing is added where there is no room for a sensor. -/
def Operation.list (room : Bool) (ls : List Listing) : Operation → List Listing
  | register id r =>
    if Listing.isTaken ls id r || !room then ls else ls ++ [⟨id, r, .offline⟩]
  | goOnline id => ls.map (·.update id fun _ => .online)
  | goOffline id _ => ls.map (·.update id fun _ => .offline)
  | _ => ls

/-- The list after some operations on an empty directory. -/
def listings (room : Bool) (ops : List Operation) : List Listing :=
  ops.foldl (Operation.list room) []

end Watch

namespace Directory

variable {d : Directory} {id : Uuid} {f : Sensor → Sensor}

theorem WellFormed.modify_eq (hd : d.WellFormed) :
    d.modify id f = { d with sensors := d.sensors.map fun s => if s.id = id then f s else s } := by
  unfold Directory.modify
  cases h : d.get? id with
  | none =>
    have hnone : ∀ s ∈ d.sensors, s.id ≠ id := by
      rintro s hs rfl
      rw [hd.mem_sensors_iff.mp hs] at h
      cases h
    have hmap : (d.sensors.map fun s => if s.id = id then f s else s) = d.sensors :=
      (List.map_congr_left fun s hs => if_neg (hnone s hs)).trans (List.map_id' _)
    rw [hmap]
  | some s =>
    obtain ⟨k, hk, hs⟩ := get?_eq_some_iff.mp h
    apply (set_of_lookup hk).trans
    congr 1
    apply List.ext_getElem?
    intro l
    rw [List.getElem?_map]
    by_cases hl : k = l
    · subst hl
      obtain ⟨hlt, -⟩ := List.getElem?_eq_some_iff.mp hs
      rw [List.getElem?_set_self hlt, hs, Option.map_some, if_pos (hd.id_of_get? h)]
    · rw [List.getElem?_set_ne hl]
      cases ht : d.sensors[l]? with
      | none => rfl
      | some t =>
        have hne : t.id ≠ id := by
          rintro rfl
          have hplace := hd.indexed ht
          rw [hk] at hplace
          exact hl (Option.some.inj hplace)
        rw [Option.map_some, if_neg hne]

theorem isTaken_eq (d : Directory) (id : Uuid) (r : SensorRegistration) :
    d.isTaken id r = Listing.isTaken (d.sensors.map Sensor.listing) id r := by
  rw [Listing.isTaken, List.any_map]
  rfl

theorem register_eq_error_taken_iff {r : SensorRegistration} :
    d.register id r = .error .taken ↔ d.isTaken id r = true := by
  unfold register
  split_ifs with htaken hroom <;> simp [htaken]

theorem register_eq_error_unbuffered_iff {r : SensorRegistration} :
    d.register id r = .error .unbuffered ↔ d.isTaken id r = false ∧ d.hasRoom = false := by
  unfold register
  split_ifs with htaken hroom <;> simp_all

theorem register_eq_error {r : SensorRegistration} {e : Obstacle}
    (h : d.register id r = .error e) : (d.isTaken id r || !d.hasRoom) = true := by
  cases e with
  | taken => rw [register_eq_error_taken_iff.mp h, Bool.true_or]
  | unbuffered => rw [(register_eq_error_unbuffered_iff.mp h).2, Bool.not_false, Bool.or_true]

/-- The directory has exactly the sensors of the list, in its order and under their ids. -/
structure Represents (d : Directory) (ls : List Listing) : Prop where
  wellFormed : d.WellFormed
  sensors : d.sensors.map Sensor.listing = ls
  index : d.index.map Prod.fst = (ls.map Listing.id).reverse
  ids : (ls.map Listing.id).Nodup
  places : (ls.map Listing.place).Nodup

theorem represents_empty (historyCapacity eventBuffer : Nat) :
    (empty historyCapacity eventBuffer).Represents [] where
  wellFormed := wellFormed_empty historyCapacity eventBuffer
  sensors := rfl
  index := rfl
  ids := List.nodup_nil
  places := List.nodup_nil

namespace Represents

variable {d' : Directory} {ls : List Listing} {r : SensorRegistration}

theorem register (hr : d.Represents ls) (h : d.register id r = .ok d') :
    d'.Represents (ls ++ [⟨id, r, .offline⟩]) := by
  have hwf := hr.wellFormed.register h
  obtain ⟨hfree, -, rfl⟩ := register_eq_ok_iff.mp h
  rw [isTaken_eq, hr.sensors] at hfree
  have hnew : ¬ ∃ l ∈ ls, l.id = id ∨ l.place = (r.name, r.location) := by
    rw [← Listing.isTaken_iff, hfree]
    exact Bool.false_ne_true
  constructor
  · exact hwf
  · rw [List.map_append, hr.sensors]
    rfl
  · rw [List.map_append, List.reverse_append, ← hr.index]
    rfl
  · rw [List.map_append]
    apply hr.ids.append (List.nodup_singleton _)
    apply List.disjoint_singleton.mpr
    intro hmem
    obtain ⟨l, hl, hid⟩ := List.mem_map.mp hmem
    exact hnew ⟨l, hl, Or.inl hid⟩
  · rw [List.map_append]
    apply hr.places.append (List.nodup_singleton _)
    apply List.disjoint_singleton.mpr
    intro hmem
    obtain ⟨l, hl, hplace⟩ := List.mem_map.mp hmem
    exact hnew ⟨l, hl, Or.inr hplace⟩

/-- What changes a status at most changes one entry of the list. -/
theorem modify (hr : d.Represents ls) {u : OnlineStatus → OnlineStatus}
    (hf : ∀ s, (f s).listing = ⟨s.id, ⟨s.name, s.location, s.tags⟩, u s.status⟩) :
    (d.modify id f).Represents (ls.map (·.update id u)) where
  wellFormed := hr.wellFormed.modify fun s => congrArg Listing.id (hf s)
  sensors := by
    rw [hr.wellFormed.modify_eq, ← hr.sensors, List.map_map, List.map_map]
    apply List.map_congr_left
    intro s _
    simp only [Function.comp_apply, Listing.update]
    by_cases hid : s.id = id
    · rw [if_pos hid]
      exact (hf s).trans (if_pos hid).symm
    · rw [if_neg hid]
      exact (if_neg hid).symm
  index := by
    rw [hr.wellFormed.modify_eq, List.map_map]
    exact hr.index.trans (by simp [Function.comp_def])
  ids := by
    rw [List.map_map]
    simpa [Function.comp_def] using hr.ids
  places := by
    rw [List.map_map]
    simpa [Function.comp_def] using hr.places

theorem get?_eq_some_iff (hr : d.Represents ls) {s : Sensor} :
    d.get? id = some s ↔ s ∈ d.sensors ∧ s.id = id := by
  constructor
  · intro h
    have hid := hr.wellFormed.id_of_get? h
    exact ⟨hr.wellFormed.mem_sensors_iff.mpr (hid ▸ h), hid⟩
  · rintro ⟨hs, rfl⟩
    exact hr.wellFormed.mem_sensors_iff.mp hs

theorem listing_find (hr : d.Represents ls) (tags : List String) :
    (d.find tags).map Sensor.listing = ls.filter (·.isFoundBy tags) := by
  rw [← hr.sensors, List.filter_map]
  congr 1
  apply List.filter_congr
  intro s _
  rw [Bool.eq_iff_iff, Function.comp_apply, Listing.isFoundBy_iff]
  simp [Sensor.hasAnyTag, Sensor.listing]

/-- A client is shown the list. -/
theorem roster_eq {s : Server} (hr : s.directory.Represents ls) (tags : List String) :
    (Client.roster tags s).1 = .ok ((ls.filter (·.isFoundBy tags)).map fun l => .ok l.summary) := by
  have hentries : (Client.roster tags s).1 =
      .ok (Client.rosterEntries ⟨(s.directory.find tags).map Sensor.info, none⟩) := rfl
  have hinfo (x : Sensor) : SensorSummary.ofInfo x.info = x.listing.summary := by
    simp [SensorSummary.ofInfo, Sensor.info, Listing.summary, Sensor.listing]
  rw [hentries, ← hr.listing_find, Client.rosterEntries, List.map_map, List.map_map]
  simp [Function.comp_def, hinfo]

end Represents
end Directory

namespace Watch

variable {w : Watch} {id : Uuid} {f : Sensor → Sensor} {ls : List Listing}

theorem directory_onSensor (hw : w.directory.WellFormed) (hf : ∀ s, (f s).id = s.id) :
    (w.onSensor id f).directory = w.directory.modify id f := by
  unfold onSensor Directory.modify
  cases h : w.directory.get? id with
  | none => rfl
  | some s =>
    have hid : (f s).id = id := (hf s).trans (hw.id_of_get? h)
    simp only [setSensor, hid]

theorem directory_receive (w : Watch) (name : String) :
    (w.perform (.receive name)).directory = w.directory := by
  unfold perform
  cases h : w.receive? name with
  | none => simp only [h]
  | some p =>
    obtain ⟨r, -, hr⟩ := Option.bind_eq_some_iff.mp h
    obtain ⟨s, -, hs⟩ := Option.bind_eq_some_iff.mp hr
    simp only [h, ← Option.some.inj hs]
    rfl

theorem listing_tryOnline (s : Sensor) :
    (Server.tryOnline s).2.listing = ⟨s.id, ⟨s.name, s.location, s.tags⟩, .online⟩ := by
  unfold Server.tryOnline Sensor.goOnline?
  by_cases h : s.status = .online
  · simp [h, Sensor.listing]
  · simp [h, Sensor.listing, Sensor.announce, Sensor.publish]

/-- An operation registers a sensor, changes one, or leaves the directory alone. -/
theorem directory_perform (hw : w.directory.WellFormed) (op : Operation) :
    (w.perform op).directory = match op with
      | .register id r =>
        match w.directory.register id r with
        | .ok d => d
        | .error _ => w.directory
      | .goOnline id => w.directory.modify id fun s => (Server.tryOnline s).2
      | .goOffline id announced => w.directory.modify id (·.goOffline announced)
      | .record id m => w.directory.modify id (·.record m)
      | _ => w.directory := by
  cases op with
  | register id r =>
    unfold perform
    cases h : w.directory.register id r <;> simp only [h]
  | goOnline id =>
    apply directory_onSensor hw
    intro s
    exact congrArg Listing.id (listing_tryOnline s)
  | goOffline id announced => exact directory_onSensor hw fun s => rfl
  | record id m => exact directory_onSensor hw fun s => rfl
  | subscribe name id =>
    unfold perform
    cases h : w.directory.get? id <;> simp only [h]
    rfl
  | receive name => exact w.directory_receive name
  | drop name => rfl

theorem hasRoom_perform (hw : w.directory.WellFormed) (op : Operation) :
    (w.perform op).directory.hasRoom = w.directory.hasRoom := by
  have hmodify (id : Uuid) (f : Sensor → Sensor) :
      (w.directory.modify id f).hasRoom = w.directory.hasRoom := by
    obtain ⟨hhistory, hbuffer⟩ := w.directory.capacities_modify id f
    unfold Directory.hasRoom
    rw [hhistory, hbuffer]
  rw [directory_perform hw]
  cases op with
  | register id r =>
    dsimp only
    cases h : w.directory.register id r with
    | ok d =>
      obtain ⟨-, -, rfl⟩ := Directory.register_eq_ok_iff.mp h
      rfl
    | error e => rfl
  | goOnline id => exact hmodify _ _
  | goOffline id announced => exact hmodify _ _
  | record id m => exact hmodify _ _
  | _ => rfl

theorem represents_perform (hr : w.directory.Represents ls) (op : Operation) :
    (w.perform op).directory.Represents (op.list w.directory.hasRoom ls) := by
  rw [directory_perform hr.wellFormed]
  cases op with
  | register id r =>
    have htaken := w.directory.isTaken_eq id r
    rw [hr.sensors] at htaken
    simp only [Operation.list]
    cases h : w.directory.register id r with
    | ok d =>
      obtain ⟨hfree, hroom, -⟩ := Directory.register_eq_ok_iff.mp h
      rw [← htaken, hfree, hroom]
      exact hr.register h
    | error e =>
      have hkept := Directory.register_eq_error h
      rw [← htaken, hkept]
      exact hr
  | goOnline id => exact hr.modify listing_tryOnline
  | goOffline id announced => exact hr.modify fun s => rfl
  | record id m =>
    have hsame : ls.map (·.update id fun status => status) = ls := by
      simp only [Listing.update_id, List.map_id']
    rw [← hsame]
    exact hr.modify fun s => rfl
  | _ => exact hr

theorem represents_after (hr : w.directory.Represents ls) (ops : List Operation) :
    (w.after ops).directory.Represents (ops.foldl (Operation.list w.directory.hasRoom) ls) ∧
      (w.after ops).directory.hasRoom = w.directory.hasRoom := by
  induction ops generalizing w ls with
  | nil => exact ⟨hr, rfl⟩
  | cons op ops ih =>
    obtain ⟨hrest, hroom⟩ := ih (represents_perform hr op)
    rw [hasRoom_perform hr.wellFormed] at hrest hroom
    exact ⟨hrest, hroom⟩

theorem registered_map_update (ls : List Listing) (id : Uuid) (u : OnlineStatus → OnlineStatus) :
    (ls.map (·.update id u)).map Listing.registered = ls.map Listing.registered := by
  rw [List.map_map]
  exact List.map_congr_left fun l _ => l.registered_update id u

/-- Nothing is removed from the list or described anew. -/
theorem registered_prefix (room : Bool) (ls : List Listing) (ops : List Operation) :
    ls.map Listing.registered <+: (ops.foldl (Operation.list room) ls).map Listing.registered := by
  induction ops generalizing ls with
  | nil => exact List.prefix_rfl
  | cons op ops ih =>
    apply List.IsPrefix.trans _ (ih _)
    cases op with
    | register id r =>
      simp only [Operation.list]
      split_ifs
      · exact List.prefix_rfl
      · rw [List.map_append]
        exact List.prefix_append _ _
    | goOnline id =>
      simp only [Operation.list, registered_map_update]
      exact List.prefix_rfl
    | goOffline id announced =>
      simp only [Operation.list, registered_map_update]
      exact List.prefix_rfl
    | _ => exact List.prefix_rfl

/-- A directory without room for the events of a sensor adds none, even under a new id and a new
place. -/
theorem nothing_registered_without_room :
    let id : Uuid := ⟨0xa1b2c3d4000040008000000000001000⟩
    let w := Watch.of (.empty 10 0)
    w.directory.isTaken id ⟨"n", "l", []⟩ = false ∧
      w.directory.register id ⟨"n", "l", []⟩ = .error .unbuffered ∧
      w.perform (.register id ⟨"n", "l", []⟩) = w :=
  ⟨rfl, rfl, rfl⟩

/-- How a registration ends, and what it leaves behind. -/
theorem perform_register (hr : w.directory.Represents ls) (id : Uuid) (r : SensorRegistration) :
    let taken := ∃ l ∈ ls, l.id = id ∨ l.place = (r.name, r.location)
    match w.directory.register id r with
    | .error .taken => taken ∧ w.perform (.register id r) = w
    | .error .unbuffered =>
      ¬ taken ∧ w.directory.hasRoom = false ∧ w.perform (.register id r) = w
    | .ok d => ¬ taken ∧ w.directory.hasRoom = true ∧
      w.perform (.register id r) = { w with directory := d } ∧
      ∃ s, d.sensors = w.directory.sensors ++ [s] ∧ s.listing = ⟨id, r, .offline⟩ ∧
        s.history.kept = [] := by
  intro taken
  have htaken : w.directory.isTaken id r = true ↔ taken := by
    rw [Directory.isTaken_eq, hr.sensors, Listing.isTaken_iff]
  cases h : w.directory.register id r with
  | ok d =>
    obtain ⟨hfree, hroom, hd⟩ := Directory.register_eq_ok_iff.mp h
    have hnot : ¬ taken := by
      rw [← htaken, hfree]
      exact Bool.false_ne_true
    have hperform : w.perform (.register id r) = { w with directory := d } := by
      simp only [perform, h]
    refine ⟨hnot, hroom, hperform,
      .registered id r w.directory.historyCapacity w.directory.eventBuffer, ?_, rfl, rfl⟩
    rw [← hd]
  | error e =>
    have hperform : w.perform (.register id r) = w := by
      simp only [perform, h]
    cases e with
    | taken => exact ⟨htaken.mp (Directory.register_eq_error_taken_iff.mp h), hperform⟩
    | unbuffered =>
      obtain ⟨hfree, hroom⟩ := Directory.register_eq_error_unbuffered_iff.mp h
      refine ⟨?_, hroom, hperform⟩
      rw [← htaken, hfree]
      exact Bool.false_ne_true

/-- A directory is the list of the registrations that it accepted, whatever is done to it. -/
theorem directory_refines_listings (historyCapacity eventBuffer : Nat) (ops : List Operation) :
    let start := Directory.empty historyCapacity eventBuffer
    let w := (Watch.of start).after ops
    let ls := listings start.hasRoom ops
    w.directory.Represents ls ∧
    (∀ id s, w.directory.get? id = some s ↔ s ∈ w.directory.sensors ∧ s.id = id) ∧
    (∀ later, ls.map Listing.registered <+:
      (listings start.hasRoom (ops ++ later)).map Listing.registered) ∧
    (∀ id r,
      let taken := ∃ l ∈ ls, l.id = id ∨ l.place = (r.name, r.location)
      match w.directory.register id r with
      | .error .taken => taken ∧ w.perform (.register id r) = w
      | .error .unbuffered => ¬ taken ∧ start.hasRoom = false ∧ w.perform (.register id r) = w
      | .ok d => ¬ taken ∧ start.hasRoom = true ∧
        w.perform (.register id r) = { w with directory := d } ∧
        ∃ s, d.sensors = w.directory.sensors ++ [s] ∧ s.listing = ⟨id, r, .offline⟩ ∧
          s.history.kept = []) ∧
    (∀ tags, (w.directory.find tags).map Sensor.listing = ls.filter (·.isFoundBy tags)) ∧
    ∀ tags (s : Server), (Client.roster tags { s with directory := w.directory }).1 =
      .ok ((ls.filter (·.isFoundBy tags)).map fun l => .ok l.summary) := by
  intro start w ls
  have hstart : (Watch.of start).directory.Represents [] :=
    Directory.represents_empty historyCapacity eventBuffer
  obtain ⟨hr, hroom⟩ := represents_after hstart ops
  refine ⟨hr, fun id s => hr.get?_eq_some_iff, ?_, ?_, hr.listing_find, fun tags s => ?_⟩
  · intro later
    unfold listings
    rw [List.foldl_append]
    exact registered_prefix _ _ _
  · intro id r
    rw [show start.hasRoom = w.directory.hasRoom from hroom.symm]
    exact perform_register hr id r
  · exact Directory.Represents.roster_eq hr tags

end Watch

namespace Host

open Auth Watch

/-- Every action of a server is at most one operation on its directory. -/
theorem exists_operations_step {h : Host} {w : Watch} (hh : h.Sound)
    (hw : h.server.directory = w.directory) (a : Action) :
    ∃ ops, (h.step a).2.server.directory = (w.after ops).directory := by
  have hwf : w.directory.WellFormed := hw ▸ hh.directory
  rcases h.directory_step a with ⟨-, hd⟩ | ⟨r, o, -, hd⟩ | ⟨id, c, hc, hd⟩
  · exact ⟨[], hd.trans hw⟩
  · rw [hw] at hd
    refine ⟨[.register o.freshId r], ?_⟩
    simp only [Watch.after, List.foldl_cons, List.foldl_nil, perform, hd]
  · rw [hw] at hd
    cases c with
    | goOnline =>
      have hcause := h.cause_of_change? hc
      generalize (h.step a).2.server.measuring = ms at hcause
      cases hcause with
      | @accepted _ _ s _ hs hon =>
        rw [hw] at hs
        have htry : (Server.tryOnline s).2 = Sensor.Change.goOnline.apply s := by
          simp [Server.tryOnline, Sensor.goOnline?_eq, hon]
        have hop := directory_perform hwf (.goOnline id)
        simp only [Directory.modify, hs, htry] at hd hop
        exact ⟨[.goOnline id], hd.trans hop.symm⟩
    | goOffline announced =>
      have hop := directory_perform hwf (.goOffline id announced)
      exact ⟨[.goOffline id announced], hd.trans hop.symm⟩
    | record m =>
      have hop := directory_perform hwf (.record id m)
      exact ⟨[.record id m], hd.trans hop.symm⟩

/-- The directory of a server is reached by operations. -/
theorem exists_operations (issuer : Issuer) (historyCapacity eventBuffer : Nat)
    (as : List Action) : ∃ ops,
      ((fresh issuer historyCapacity eventBuffer).after as).server.directory =
        ((Watch.of (.empty historyCapacity eventBuffer)).after ops).directory := by
  have hrun {h : Host} {w : Watch} (hh : h.Sound) (hw : h.server.directory = w.directory) :
      ∃ ops, (h.after as).server.directory = (w.after ops).directory := by
    induction as generalizing h w with
    | nil => exact ⟨[], hw⟩
    | cons a as ih =>
      obtain ⟨ops, hops⟩ := exists_operations_step hh hw a
      obtain ⟨more, hmore⟩ := ih (hh.step a) hops
      refine ⟨ops ++ more, ?_⟩
      rw [Watch.after, List.foldl_append]
      exact hmore
  exact hrun (sound_fresh issuer historyCapacity eventBuffer) rfl

end Host

end SensorRelay
