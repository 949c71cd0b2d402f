import SensorRelay.Proofs.Calendar
import SensorRelay.Proofs.Instant

/-!
# Timestamps and instants in order

The valid timestamps are those of the years -262143 to 262142, with nanoseconds beyond a second only
at the end of a minute. They stand in the same order as the instants that they name.
-/

namespace SensorRelay

namespace Timestamp

variable {t : Timestamp}

/-- Seconds first, then nanoseconds. -/
def Precedes (t u : Timestamp) : Prop :=
  t.seconds < u.seconds ∨ t.seconds = u.seconds ∧ t.nanos < u.nanos

/-- The year of the calendar in which the second lies. -/
def year (t : Timestamp) : Int :=
  (Date.ofDay (t.seconds.toInt / 86400)).year

/-- The seconds of a minute are counted by floor division, so before 1970 as after. -/
def secondOfMinute (t : Timestamp) : Int :=
  t.seconds.toInt.fmod 60

theorem first_le_iff : Instant.firstDay * 86400 ≤ t.seconds.toInt ↔ -262143 ≤ t.year := by
  have hyear := Date.newYear_le_iff (y := -262143) (d := t.seconds.toInt / 86400)
  have hfirst : Date.newYear (-262143) = Instant.firstDay := by decide
  rw [hfirst] at hyear
  rw [year, ← hyear]
  omega

theorem lt_end_iff : t.seconds.toInt < (Instant.lastDay + 1) * 86400 ↔ t.year ≤ 262142 := by
  have hyear := Date.newYear_le_iff (y := 262143) (d := t.seconds.toInt / 86400)
  have hend : Date.newYear 262143 = Instant.lastDay + 1 := by decide
  rw [hend] at hyear
  have hnot : t.year ≤ 262142 ↔ ¬ 262143 ≤ t.year := by omega
  rw [hnot, year, ← hyear]
  omega

theorem isValid_iff : t.IsValid ↔
    (-262143 ≤ t.year ∧ t.year ≤ 262142) ∧
      (0 ≤ t.nanos.toInt ∧ t.nanos.toInt < 1000000000 ∨
        1000000000 ≤ t.nanos.toInt ∧ t.nanos.toInt < 2000000000 ∧ t.secondOfMinute = 59) := by
  have hminute : t.secondOfMinute = t.seconds.toInt % 60 :=
    Int.fmod_eq_emod_of_nonneg _ (by decide)
  rw [← first_le_iff, ← lt_end_iff, hminute]
  constructor
  · rintro ⟨hfirst, hend, hnonneg, hlt⟩
    refine ⟨⟨hfirst, hend⟩, ?_⟩
    omega
  · rintro ⟨⟨hfirst, hend⟩, hnanos⟩
    refine ⟨hfirst, hend, ?_, ?_⟩ <;> omega

end Timestamp

namespace Instant

/-- An instant comes before another if its timestamp does. -/
theorem before_iff {a b : Instant} : a.before b = true ↔ a.timestamp.Precedes b.timestamp := by
  have ha := a.second_lt
  have hb := b.second_lt
  have hsa : a.seconds = a.day * 86400 + a.second := rfl
  have hsb : b.seconds = b.day * 86400 + b.second := rfl
  rw [Timestamp.Precedes, Int64.lt_iff_toInt_lt, Int32.lt_iff_toInt_lt, ← Int64.toInt_inj,
    toInt_seconds_timestamp, toInt_seconds_timestamp, toInt_nanos_timestamp, toInt_nanos_timestamp]
  simp only [before, Bool.or_eq_true, Bool.and_eq_true, decide_eq_true_eq]
  omega

@[simp] theorem before_self (a : Instant) : a.before a = false := by
  simp [before]

theorem before_asymm {a b : Instant} (h : a.before b = true) : b.before a = false := by
  simp only [before, Bool.or_eq_true, Bool.and_eq_true, decide_eq_true_eq] at h
  simp only [before, Bool.or_eq_false_iff, Bool.and_eq_false_iff, decide_eq_false_iff_not]
  omega

theorem not_before_trans {a b c : Instant} (hab : a.before b = false) (hbc : b.before c = false) :
    a.before c = false := by
  simp only [before, Bool.or_eq_false_iff, Bool.and_eq_false_iff, decide_eq_false_iff_not] at *
  omega

theorem not_before_total (a b : Instant) : a.before b = false ∨ b.before a = false := by
  cases hab : a.before b with
  | false => exact .inl rfl
  | true => exact .inr (before_asymm hab)

/-- Of two different instants one comes before the other. -/
theorem eq_of_not_before {a b : Instant} (hab : a.before b = false) (hba : b.before a = false) :
    a = b := by
  obtain ⟨day, second, nano⟩ := a
  obtain ⟨day', second', nano'⟩ := b
  simp only [before, Bool.or_eq_false_iff, Bool.and_eq_false_iff, decide_eq_false_iff_not]
    at hab hba
  simp only [mk.injEq]
  omega

/-- Exactly the valid timestamps can be read, each is the timestamp of what it is read as, every
instant is read from its own, and reading keeps the order. -/
theorem timestamps_name_instants :
    (∀ t : Timestamp, (∃ i, ofTimestamp? t = some i) ↔
      (-262143 ≤ t.year ∧ t.year ≤ 262142) ∧
        (0 ≤ t.nanos.toInt ∧ t.nanos.toInt < 1000000000 ∨
          1000000000 ≤ t.nanos.toInt ∧ t.nanos.toInt < 2000000000 ∧ t.secondOfMinute = 59)) ∧
    (∀ t i, ofTimestamp? t = some i → i.timestamp = t) ∧
    (∀ i : Instant, ofTimestamp? i.timestamp = some i) ∧
    ∀ t u i j, ofTimestamp? t = some i → ofTimestamp? u = some j →
      (i.before j = true ↔ t.Precedes u) ∧ (i = j ↔ t = u) := by
  refine ⟨fun t => exists_ofTimestamp?_iff.trans Timestamp.isValid_iff,
    fun t i => ofTimestamp?_eq_some_iff.mp, ofTimestamp?_timestamp, ?_⟩
  intro t u i j ht hu
  obtain rfl := ofTimestamp?_eq_some_iff.mp ht
  obtain rfl := ofTimestamp?_eq_some_iff.mp hu
  refine ⟨before_iff, congrArg timestamp, fun h => ?_⟩
  rw [h, ofTimestamp?_timestamp] at ht
  exact (Option.some.inj ht).symm

/-- A leap second before 1970 is read, comes before the second that follows it, and is written as it
was. -/
theorem timestamps_name_instants_before_epoch :
    let leap : Timestamp := ⟨-1, 1500000000⟩
    let next : Timestamp := ⟨0, 0⟩
    ∃ i j, ofTimestamp? leap = some i ∧ ofTimestamp? next = some j ∧ i.timestamp = leap ∧
      i.before j = true ∧ i ≠ j := by
  intro leap next
  obtain ⟨hexists, hwritten, -, horder⟩ := timestamps_name_instants
  obtain ⟨i, hi⟩ := (hexists leap).mpr (by decide)
  obtain ⟨j, hj⟩ := (hexists next).mpr (by decide)
  obtain ⟨hbefore, hsame⟩ := horder leap next i j hi hj
  exact ⟨i, j, hi, hj, hwritten leap i hi, hbefore.mpr (.inl (by decide)),
    fun h => absurd (hsame.mp h) (by decide)⟩

end Instant
end SensorRelay
