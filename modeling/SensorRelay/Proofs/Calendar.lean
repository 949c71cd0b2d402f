import SensorRelay.Instant.Calendar
import Mathlib.Tactic.ByContra
import Mathlib.Tactic.SplitIfs

/-!
# Years of the calendar

The year in which a day falls is the one whose first day is the last not to come after it. The dates
of a day are found by counting in eras that start in March, so the year of a date is compared here
with the first of January of every year, which follows from the lengths of the years alone.
-/

namespace SensorRelay.Date

/-- Does a year have 366 days? -/
def IsLeap (year : Int) : Prop :=
  year % 4 = 0 ∧ (year % 100 ≠ 0 ∨ year % 400 = 0)

instance (year : Int) : Decidable (IsLeap year) :=
  inferInstanceAs (Decidable (_ ∧ _))

/-- The first of January of a year, counted from 1970-01-01. -/
def newYear (year : Int) : Int :=
  365 * year + (year - 1) / 4 - (year - 1) / 100 + (year - 1) / 400 - 719527

theorem newYear_epoch : newYear 1970 = 0 := by decide

theorem newYear_succ (year : Int) :
    newYear (year + 1) = newYear year + if IsLeap year then 366 else 365 := by
  unfold newYear IsLeap
  split_ifs <;> omega

theorem newYear_le_newYear {y z : Int} (h : y ≤ z) : newYear y ≤ newYear z := by
  unfold newYear
  rcases Int.lt_or_eq_of_le h with hlt | rfl
  · omega
  · exact Int.le_refl _

/-- A day of an era: so many centuries, spans of four years, and years come before it. The last day
of a year of 366 days follows its 365 others. -/
structure Place (dayOfEra century span year day : Nat) : Prop where
  century_le : century ≤ 3
  span_le : span ≤ 24
  year_le : year ≤ 3
  day_lt : day < 365 ∨ day = 365 ∧ year = 3 ∧ (span < 24 ∨ century = 3)
  eq : dayOfEra = 36524 * century + 1461 * span + 365 * year + day

theorem exists_place {dayOfEra : Nat} (h : dayOfEra < 146097) :
    ∃ century span year day, Place dayOfEra century span year day := by
  have hcentury : ∃ c r, c ≤ 3 ∧ (r < 36524 ∨ r = 36524 ∧ c = 3) ∧ dayOfEra = 36524 * c + r :=
    ⟨min (dayOfEra / 36524) 3, dayOfEra - 36524 * min (dayOfEra / 36524) 3, by omega, by omega,
      by omega⟩
  obtain ⟨c, r, hc, hr, rfl⟩ := hcentury
  have hyear : ∃ y d, y ≤ 3 ∧ (d < 365 ∨ d = 365 ∧ y = 3) ∧ r % 1461 = 365 * y + d :=
    ⟨min (r % 1461 / 365) 3, r % 1461 - 365 * min (r % 1461 / 365) 3, by omega, by omega, by omega⟩
  obtain ⟨y, d, hy, hd, hrest⟩ := hyear
  refine ⟨c, r / 1461, y, d, hc, ?_, hy, ?_, ?_⟩ <;> omega

namespace Place

variable {dayOfEra century span year day : Nat} (h : Place dayOfEra century span year day)

include h

/-- The one day of an era that belongs to none of four equal centuries is its last. -/
theorem century_eq :
    ∃ last, dayOfEra / 146096 = last ∧ dayOfEra / 36524 = century + last := by
  obtain ⟨hcentury, hspan, hyear, hday, rfl⟩ := h
  by_cases hlast : 1461 * span + 365 * year + day < 36524
  · refine ⟨0, Nat.div_eq_of_lt (by omega), ?_⟩
    rw [Nat.add_assoc, Nat.add_assoc, Nat.mul_add_div (by decide), ← Nat.add_assoc,
      Nat.div_eq_of_lt hlast]
  · obtain ⟨rfl, rfl, rfl, rfl⟩ : century = 3 ∧ span = 24 ∧ year = 3 ∧ day = 365 := by omega
    exact ⟨1, rfl, rfl⟩

/-- Counted in spans of 1460 days, a day falls a span too late at most, and then it is not the first
of its year. -/
theorem span_eq : ∃ late, dayOfEra / 1460 = 25 * century + span + late ∧ late ≤ day ∧
    day < 365 + late := by
  obtain ⟨hcentury, hspan, hyear, hday, rfl⟩ := h
  by_cases hlate : 24 * century + span + 365 * year + day < 1460
  · refine ⟨0, ?_, by omega, by omega⟩
    rw [Nat.div_eq_iff (by decide)]
    omega
  · refine ⟨1, ?_, by omega, by omega⟩
    rw [Nat.div_eq_iff (by decide)]
    omega

theorem yearOfEra_eq :
    (dayOfEra - dayOfEra / 1460 + dayOfEra / 36524 - dayOfEra / 146096) / 365 =
      100 * century + 4 * span + year := by
  obtain ⟨last, hlast, hcentury⟩ := h.century_eq
  obtain ⟨late, hspan, hle, hlt⟩ := h.span_eq
  have heq := h.eq
  rw [hlast, hcentury, hspan]
  clear hlast hcentury hspan
  rw [Nat.div_eq_iff (by decide)]
  omega

theorem dayOfYear_eq :
    let yearOfEra := 100 * century + 4 * span + year
    dayOfEra - (365 * yearOfEra + yearOfEra / 4 - yearOfEra / 100) = day := by
  obtain ⟨hcentury, hspan, hyear, -, rfl⟩ := h
  intro yearOfEra
  omega

end Place

/-- January and February are the last months of a year that starts in March. -/
theorem year_ofDay {d : Int} {century span year day : Nat}
    (h : Place ((d + 719468) % 146097).toNat century span year day) :
    (ofDay d).year = 100 * century + 4 * span + year + (d + 719468) / 146097 * 400 +
      if 306 ≤ day then 1 else 0 := by
  have hday := h.day_lt
  have hmonth : ((if (5 * day + 2) / 153 < 10 then (5 * day + 2) / 153 + 3
      else (5 * day + 2) / 153 - 9) ≤ 2) ↔ 306 ≤ day := by
    split_ifs <;> omega
  simp only [ofDay, h.yearOfEra_eq, h.dayOfYear_eq, hmonth]
  push_cast
  rfl

/-- Every day falls in the year of its date. -/
theorem falls_in_year (d : Int) :
    newYear (ofDay d).year ≤ d ∧ d < newYear ((ofDay d).year + 1) := by
  have hrange : ((d + 719468) % 146097).toNat < 146097 := by omega
  obtain ⟨century, span, year, day, h⟩ := exists_place hrange
  obtain ⟨hcentury, hspan, hyear, hday, heq⟩ := h
  rw [year_ofDay ⟨hcentury, hspan, hyear, hday, heq⟩]
  generalize hera : (d + 719468) / 146097 = era
  have hd : d + 719468 = 146097 * era + (36524 * century + 1461 * span + 365 * year + day) := by
    omega
  clear hrange heq hera
  unfold newYear
  split_ifs <;> omega

theorem newYear_le_iff {y d : Int} : newYear y ≤ d ↔ y ≤ (ofDay d).year := by
  obtain ⟨hle, hlt⟩ := falls_in_year d
  constructor
  · intro h
    by_contra hyear
    have hnext := newYear_le_newYear (y := (ofDay d).year + 1) (z := y) (by omega)
    omega
  · intro h
    exact Int.le_trans (newYear_le_newYear h) hle

end SensorRelay.Date
