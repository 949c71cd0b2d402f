import SensorRelay.Server.Sensor
import Mathlib.Tactic.SplitIfs

/-!
# Changes of a sensor

A sensor is only ever changed in three ways, and each of them publishes one event. A receiver that
stood at the end of the feed is then handed exactly that event, because a feed has room for one.
-/

namespace SensorRelay

namespace Window

variable {α : Type} (w : Window α)

theorem size_push (a : α) : (w.push a).size = min (w.size + 1) w.capacity := by
  have hlen := congrArg List.length (w.toList_push a)
  have hle := w.size_le
  simp only [length_toList, List.length_drop, List.length_append, List.length_singleton] at hlen
  omega

end Window

namespace Feed

variable {α : Type} (f : Feed α)

theorem capacity_empty_pos (size : Nat) : 0 < (empty size : Feed α).window.capacity :=
  Nat.pos_of_isPowerOfTwo (isPowerOfTwo_leastPowerOfTwo size)

@[simp] theorem published_publish (e : α) : (f.publish e).published = f.published + 1 := rfl

@[simp] theorem capacity_publish (e : α) :
    (f.publish e).window.capacity = f.window.capacity :=
  f.window.capacity_push e

theorem kept_publish_suffix (e : α) : (f.publish e).kept <:+ f.kept ++ [e] := by
  rw [kept, publish, Window.toList_push]
  exact List.drop_suffix _ _

/-- Nothing is pending at the end of a feed. -/
theorem receive_published : f.receive f.published = ⟨0, []⟩ := by
  have hlen := f.window.length_toList
  simp [receive, kept, hlen]

theorem receive_publish (hf : 0 < f.window.capacity) (e : α) :
    (f.publish e).receive f.published = ⟨0, [e]⟩ := by
  have hle := f.window.size_le
  have hlen := f.window.length_toList
  have hdrop : f.window.size + 1 - f.window.capacity ≤ f.window.toList.length := by omega
  have hone : f.published + 1 - f.published = 1 := by omega
  simp only [receive, kept, publish, Window.size_push, Window.toList_push, hone]
  rw [List.drop_append_of_le_length hdrop, List.drop_append, List.drop_eq_nil_of_le,
    List.length_drop]
  · have hlost : 1 - min (f.window.size + 1) f.window.capacity = 0 := by omega
    have hskip : min (f.window.size + 1) f.window.capacity - 1 -
        (f.window.toList.length - (f.window.size + 1 - f.window.capacity)) = 0 := by omega
    rw [hlost, hskip]
    rfl
  · rw [List.length_drop]
    omega

end Feed

namespace Sensor

/-- What can happen to a sensor. -/
inductive Change
  | goOnline
  | goOffline (announced : OnlineStatus)
  | record (m : Measurement)
deriving DecidableEq

namespace Change

def apply : Change → Sensor → Sensor
  | goOnline, s => ({ s with status := .online } : Sensor).announce .online
  | goOffline announced, s => s.goOffline announced
  | record m, s => s.record m

/-- What the sensor of that id publishes when it happens. -/
def event (id : Uuid) : Change → SensorEvent
  | goOnline => .statusChanged id.text .online
  | goOffline announced => .statusChanged id.text announced
  | record m => .measured m

/-- The stored status afterwards. -/
def statusAfter (before : OnlineStatus) : Change → OnlineStatus
  | goOnline => .online
  | goOffline _ => .offline
  | record _ => before

variable (c : Change) (s : Sensor)

@[simp] theorem id_apply : (c.apply s).id = s.id := by
  cases c <;> rfl

@[simp] theorem feed_apply : (c.apply s).feed = s.feed.publish (c.event s.id) := by
  cases c <;> rfl

@[simp] theorem historyCapacity_apply :
    (c.apply s).history.window.capacity = s.history.window.capacity := by
  cases c with
  | record m => exact s.history.window.capacity_push m
  | _ => rfl

@[simp] theorem status_apply : (c.apply s).status = c.statusAfter s.status := by
  cases c <;> rfl

end Change

theorem goOnline?_eq (s : Sensor) :
    s.goOnline? = if s.status = .online then none else some (Change.goOnline.apply s) := rfl

end Sensor
end SensorRelay
