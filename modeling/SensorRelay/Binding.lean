/-!
# Named values

A list of pairs binds each name to its first value.
-/

namespace SensorRelay

variable {α : Type}

/-- Binds a name, in place of what it was bound to. -/
def bindName (name : String) (a : α) (l : List (String × α)) : List (String × α) :=
  (name, a) :: l.filter (·.1 ≠ name)

@[simp]
theorem lookup_bindName_self (name : String) (a : α) (l : List (String × α)) :
    (bindName name a l).lookup name = some a := by
  simp [bindName]

theorem lookup_bindName_of_ne {name key : String} (h : key ≠ name) (a : α)
    (l : List (String × α)) : (bindName name a l).lookup key = l.lookup key := by
  have hne : (key == name) = false := by simpa using h
  simp only [bindName, List.lookup_cons, hne]
  induction l with
  | nil => rfl
  | cons m rest ih =>
    obtain ⟨k, b⟩ := m
    by_cases hk : k = name
    · subst hk
      simpa [List.lookup_cons, hne] using ih
    · by_cases hkey : key = k <;> simp_all [List.lookup_cons]

end SensorRelay
