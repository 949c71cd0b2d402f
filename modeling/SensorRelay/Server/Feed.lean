import SensorRelay.Window

/-!
# Feeds

A feed hands every published event to every receiver, but keeps only the latest ones. A receiver
that falls further behind is told how many events it lost, and goes on with the oldest kept.
-/

namespace SensorRelay

/-- The least power of two that is not below `n`. -/
def leastPowerOfTwo (n : Nat) : Nat :=
  1 <<< if n ≤ 1 then 0 else (n - 1).log2 + 1

theorem isPowerOfTwo_leastPowerOfTwo (n : Nat) : (leastPowerOfTwo n).isPowerOfTwo :=
  ⟨_, Nat.one_shiftLeft _⟩

theorem le_leastPowerOfTwo (n : Nat) : n ≤ leastPowerOfTwo n := by
  rw [leastPowerOfTwo, Nat.one_shiftLeft]
  split
  · rwa [Nat.pow_zero]
  · have hlt : n - 1 < 2 ^ ((n - 1).log2 + 1) := Nat.lt_log2_self
    omega

theorem leastPowerOfTwo_le {n m : Nat} (hm : m.isPowerOfTwo) (hn : n ≤ m) :
    leastPowerOfTwo n ≤ m := by
  rw [leastPowerOfTwo, Nat.one_shiftLeft]
  obtain ⟨k, rfl⟩ := hm
  split
  · exact Nat.one_le_two_pow
  · have hlt : (n - 1).log2 < k := (Nat.log2_lt (by omega)).mpr (by omega)
    exact Nat.pow_le_pow_right (by decide) hlt

/-- `published` counts all events so far; the window holds the latest of them. -/
structure Feed (α : Type) where
  published : Nat
  window : Window α

structure Batch (α : Type) where
  lost : Nat
  events : List α
deriving DecidableEq

namespace Feed

variable {α : Type} (f : Feed α)

/-- Room for as many events as were asked for, rounded up to a power of two. -/
def empty (size : Nat) : Feed α :=
  ⟨0, .empty (leastPowerOfTwo size)⟩

/-- There is no feed for more events than this. -/
def greatestSize : Nat := 1 <<< 56

/-- The kept events, oldest first. -/
def kept : List α :=
  f.window.toList

def publish (e : α) : Feed α :=
  ⟨f.published + 1, f.window.push e⟩

/-- Everything published since the receiver stood at `position`. -/
def receive (position : Nat) : Batch α :=
  let pending := f.published - position
  ⟨pending - f.window.size, f.kept.drop (f.window.size - pending)⟩

end Feed
end SensorRelay
