import SensorRelay.Proofs.Server.Subscription
import SensorRelay.Proofs.Uuid

/-!
# Delivery of events

The events of a sensor that a subscription call is handed are those that were published while it
followed the sensor: from the frame that says so to the one that says the opposite, or to the end of
its request half.
-/

namespace SensorRelay

open Auth Rpc

/-- The printed id of the sensor that an event frame is about. -/
def Frame.sensor? : Frame → Option String
  | action _ => none
  | measurement m => some m.sensorId
  | statusChange c => some c.sensorId

/-- What a run shows, in order. -/
inductive Entry
  | asked (a : Action)
  | published (id : Uuid) (e : SensorEvent)
  | sent (x : Signal)

def Moment.entries (m : Moment) : List Entry :=
  .asked m.action :: ((m.published.toList.map fun p => .published p.1 p.2) ++ m.signals.map .sent)

namespace Entry

variable (k : CallId) (id : Uuid)

/-- Does the call follow the sensor after the entry, given whether it did before? -/
def follows (before : Bool) : Entry → Bool
  | asked (.uploadControl call u) => before && !(call = k && u.isLast)
  | sent (.frame call (some f)) =>
    if call ≠ k then before
    else if f = (Verdict.subscribed id).frame then true
    else if f = (Verdict.unsubscribed id).frame then false
    else before
  | _ => before

/-- Each entry, and whether the call follows the sensor when it happens. -/
def followedAt : Bool → List Entry → List (Entry × Bool)
  | _, [] => []
  | before, e :: es => (e, before) :: followedAt (e.follows k id before) es

/-- An event of the sensor as it is published. -/
def event? : Entry → Option SensorEvent
  | published i e => if i = id then some e else none
  | _ => none

/-- An event of the sensor as it is handed to the call. -/
def receipt? : Entry → Option Frame
  | sent (.frame call (some f)) => if call = k ∧ f.sensor? = some id.text then some f else none
  | _ => none

/-- The events published while the call follows the sensor. -/
def due (before : Bool) (es : List Entry) : List (Frame × Bool) :=
  (followedAt k id before es).filterMap fun p =>
    if p.2 then (p.1.event? id).map fun e => (e.frame, true) else none

/-- The events handed to the call, and whether it follows the sensor then. -/
def received (before : Bool) (es : List Entry) : List (Frame × Bool) :=
  (followedAt k id before es).filterMap fun p => (p.1.receipt? k id).map (·, p.2)

end Entry

namespace Host

variable {h : Host}

/-- All that a run shows. -/
def journal (h : Host) (as : List Action) : List Entry :=
  (h.run as).1.flatMap Moment.entries

end Host

namespace Entry

variable {k : CallId} {id : Uuid}

theorem followedAt_append (b : Bool) (es fs : List Entry) :
    followedAt k id b (es ++ fs) =
      followedAt k id b es ++ followedAt k id (es.foldl (follows k id) b) fs := by
  induction es generalizing b with
  | nil => rfl
  | cons e es ih => exact congrArg (_ :: ·) (ih _)

/-- The call is handed what is due, and `after` is whether it follows the sensor in the end. -/
structure Served (k : CallId) (id : Uuid) (before : Bool) (es : List Entry) (after : Bool) :
    Prop where
  exact : received k id before es = due k id before es
  state : es.foldl (follows k id) before = after

theorem Served.append {b b' b'' : Bool} {es fs : List Entry} (hes : Served k id b es b')
    (hfs : Served k id b' fs b'') : Served k id b (es ++ fs) b'' where
  exact := by
    have hexact := hfs.exact
    rw [← hes.state] at hexact
    unfold received due at hexact ⊢
    rw [followedAt_append, List.filterMap_append, List.filterMap_append, hexact]
    exact congrArg (· ++ _) hes.exact
  state := by rw [List.foldl_append, hes.state, hfs.state]

/-- An entry that is no event of the sensor and hands none to the call. -/
theorem served_singleton {e : Entry} (hevent : e.event? id = none) (hreceipt : e.receipt? k id = none)
    (b : Bool) : Served k id b [e] (e.follows k id b) where
  exact := by simp [received, due, followedAt, hevent, hreceipt]
  state := rfl

end Entry

namespace Verdict

end Verdict

namespace Entry

variable {k : CallId} {id : Uuid}

end Entry

namespace Host

variable {h : Host}

open Entry

/-- Does the call follow the sensor? -/
def isFollowing (h : Host) (k : CallId) (id : Uuid) : Bool :=
  (h.followed? k).any (id ∈ ·)

theorem sensor?_event_of_change? {a : Action} {id : Uuid} {c : Sensor.Change}
    (hc : h.change? a = some (id, c)) : (c.event id).frame.sensor? = some id.text := by
  cases a with
  | openMeasurements header =>
    simp only [change?] at hc
    split at hc
    · simp only [Option.map_eq_some_iff, Prod.mk.injEq] at hc
      obtain ⟨s, -, rfl, rfl⟩ := hc
      split_ifs <;> rfl
    · cases hc
  | uploadMeasurement call u o =>
    simp only [change?, Option.map_eq_some_iff, Prod.mk.injEq] at hc
    obtain ⟨j, -, rfl, rfl⟩ := hc
    cases u <;> rfl
  | _ => cases hc

/-- The feed of every sensor ends the log of its events. -/
structure Logged (h : Host) (log : Uuid → List SensorEvent) : Prop where
  unregistered : ∀ {id}, h.server.directory.get? id = none → log id = []
  counted : ∀ {id s}, h.server.directory.get? id = some s → s.feed.published = (log id).length
  kept : ∀ {id s}, h.server.directory.get? id = some s → s.feed.kept <:+ log id

theorem logged_fresh (issuer : Issuer) (historyCapacity eventBuffer : Nat) :
    (fresh issuer historyCapacity eventBuffer).Logged fun _ => [] where
  unregistered _ := rfl
  counted hs := by simp [fresh, Server.empty, Directory.empty, Directory.get?] at hs
  kept hs := by simp [fresh, Server.empty, Directory.empty, Directory.get?] at hs

theorem filterMap_event?_entries (hh : h.Sound) (a : Action) (id : Uuid) :
    (h.step a).1.entries.filterMap (event? id) = match h.change? a with
      | some (i, c) => if i = id then [c.event i] else []
      | none => [] := by
  have hsignals : ((h.step a).1.signals.map sent).filterMap (event? id) = [] := by
    rw [List.filterMap_map, List.filterMap_eq_nil_iff]
    exact fun x _ => rfl
  have hpublished := hh.published_eq a
  change (h.step a).1.published = _ at hpublished
  rw [Moment.entries, List.filterMap_cons_none rfl, List.filterMap_append, hsignals, hpublished]
  cases h.change? a with
  | none => rfl
  | some e => by_cases hi : e.1 = id <;> simp [event?, hi]

theorem Logged.step {log : Uuid → List SensorEvent} (hl : h.Logged log) (hh : h.Sound) (a : Action) :
    (h.step a).2.Logged fun id => log id ++ (h.step a).1.entries.filterMap (event? id) where
  unregistered {id} hid := by
    have hold : h.server.directory.get? id = none := by
      by_contra hsome
      have hkept := hh.isSome_get?_step a (Option.ne_none_iff_isSome.mp hsome)
      rw [hid] at hkept
      cases hkept
    rw [hl.unregistered hold, filterMap_event?_entries hh]
    cases hc : h.change? a with
    | none => rfl
    | some e =>
      have hreg := hh.isSome_of_change? hc
      refine if_neg ?_
      rintro rfl
      rw [hold] at hreg
      cases hreg
  counted {id s'} hs' := by
    rw [filterMap_event?_entries hh]
    rcases hh.get?_step hs' with ⟨hc, hnone, r, rfl⟩ | ⟨s, hs, rfl⟩
    · rw [hc, hl.unregistered hnone]
      rfl
    · cases hc : h.change? a with
      | none => simpa using hl.counted hs
      | some e =>
        by_cases hi : e.1 = id
        · simp [hi, hl.counted hs]
        · simpa [hi, Ne.symm hi] using hl.counted hs
  kept {id s'} hs' := by
    rw [filterMap_event?_entries hh]
    rcases hh.get?_step hs' with ⟨hc, hnone, r, rfl⟩ | ⟨s, hs, rfl⟩
    · exact List.nil_suffix
    · cases hc : h.change? a with
      | none => simpa using hl.kept hs
      | some e =>
        by_cases hi : e.1 = id
        · obtain ⟨front, hfront⟩ := hl.kept hs
          dsimp only
          rw [if_pos hi.symm, if_pos hi, Sensor.Change.feed_apply, hh.directory.id_of_get? hs, hi,
            ← hfront, List.append_assoc]
          exact (Feed.kept_publish_suffix _ _).trans (List.suffix_append _ _)
        · simpa [hi, Ne.symm hi] using hl.kept hs

theorem Logged.after {log : Uuid → List SensorEvent} (hl : h.Logged log) (hh : h.Sound)
    (as : List Action) :
    (h.after as).Logged fun id => log id ++ (h.journal as).filterMap (event? id) := by
  induction as generalizing h log with
  | nil => simpa [journal, run] using hl
  | cons a as ih =>
    have hrest := ih (hl.step hh a) (hh.step a)
    simpa [journal, run, List.filterMap_append, List.append_assoc] using hrest

end Host
end SensorRelay
