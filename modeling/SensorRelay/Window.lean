/-!
# Windows

The latest items of a sequence, at most so many of them. An item is added in constant time on
average: the items are kept in two lists, the later of them in reverse.
-/

namespace SensorRelay

structure Window (α : Type) where
  capacity : Nat
  size : Nat
  front : List α
  back : List α
  size_eq : size = front.length + back.length
  size_le : size ≤ capacity

namespace Window

variable {α : Type}

def empty (capacity : Nat) : Window α :=
  ⟨capacity, 0, [], [], rfl, Nat.zero_le _⟩

variable (w : Window α)

/-- The items, oldest first. -/
def toList : List α :=
  w.front ++ w.back.reverse

/-- A full window drops its oldest item. -/
def push (a : α) : Window α :=
  if h : w.size < w.capacity then
    ⟨w.capacity, w.size + 1, w.front, a :: w.back, by simp [w.size_eq, Nat.add_assoc], h⟩
  else
    match hf : w.front with
    | _ :: rest =>
      ⟨w.capacity, w.size, rest, a :: w.back,
        by simp only [w.size_eq, hf, List.length_cons]; omega, w.size_le⟩
    | [] =>
      ⟨w.capacity, w.size, (a :: w.back).reverse.drop 1, [],
        by simp [w.size_eq, hf], w.size_le⟩

@[simp]
theorem toList_empty (capacity : Nat) : (empty capacity : Window α).toList = [] := rfl

theorem length_toList : w.toList.length = w.size := by
  simp [toList, w.size_eq]

@[simp]
theorem capacity_push (a : α) : (w.push a).capacity = w.capacity := by
  simp only [push]
  split
  · rfl
  · split <;> rfl

theorem toList_push (a : α) :
    (w.push a).toList = (w.toList ++ [a]).drop (w.size + 1 - w.capacity) := by
  have hle := w.size_le
  simp only [push]
  split
  · rename_i h
    rw [show w.size + 1 - w.capacity = 0 by omega]
    simp [toList]
  · rename_i h
    rw [show w.size + 1 - w.capacity = 1 by omega]
    split
    · rename_i hf
      simp [toList, hf]
    · rename_i hf
      simp [toList, hf]

end Window
end SensorRelay
