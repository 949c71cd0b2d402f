import SensorRelay.Instant.Basic

/-!
# Instants and timestamps

Instants and valid timestamps are the same thing in two notations: an instant is read back from its
timestamp, and a timestamp that can be read is the one of the instant that it names.
-/

namespace SensorRelay

/-- A timestamp within the calendar. A leap second may only follow the last second of a minute. -/
structure Timestamp.IsValid (t : Timestamp) : Prop where
  first_le : Instant.firstDay * 86400 ≤ t.seconds.toInt
  lt_end : t.seconds.toInt < (Instant.lastDay + 1) * 86400
  nanos_nonneg : 0 ≤ t.nanos.toInt
  nanos_lt : t.nanos.toInt < 1000000000 ∨ t.nanos.toInt < 2000000000 ∧ t.seconds.toInt % 60 = 59

namespace Instant

variable {i : Instant} {t : Timestamp}

theorem ofParts?_eq_some_iff {day : Int} {second nano : Nat} :
    ofParts? day second nano = some i ↔ i.day = day ∧ i.second = second ∧ i.nano = nano := by
  unfold ofParts?
  constructor
  · intro h
    split at h
    · obtain rfl := Option.some.inj h
      exact ⟨rfl, rfl, rfl⟩
    · cases h
  · rintro ⟨rfl, rfl, rfl⟩
    exact dif_pos ⟨i.day_mem, i.second_lt, i.nano_lt⟩

theorem toInt_seconds_timestamp (i : Instant) : i.timestamp.seconds.toInt = i.seconds := by
  have hday := i.day_mem
  have hsecond := i.second_lt
  unfold firstDay lastDay at hday
  simp only [timestamp, seconds]
  rw [Int64.toInt_ofInt_of_le (by omega) (by omega)]

theorem toInt_nanos_timestamp (i : Instant) : i.timestamp.nanos.toInt = i.nano := by
  have hnano := i.nano_lt
  simp only [timestamp]
  rw [Int32.toInt_ofInt_of_le (by simp) (by omega)]

theorem isValid_timestamp (i : Instant) : i.timestamp.IsValid := by
  have hday := i.day_mem
  have hsecond := i.second_lt
  have hnano := i.nano_lt
  have hseconds : i.seconds = i.day * 86400 + i.second := rfl
  constructor
  · rw [toInt_seconds_timestamp]
    omega
  · rw [toInt_seconds_timestamp]
    omega
  · rw [toInt_nanos_timestamp]
    omega
  · rw [toInt_seconds_timestamp, toInt_nanos_timestamp]
    omega

/-- A timestamp names the instant that it is written for, and no other. -/
theorem ofTimestamp?_eq_some_iff : ofTimestamp? t = some i ↔ i.timestamp = t := by
  have hday := i.day_mem
  have hsecond := i.second_lt
  unfold ofTimestamp?
  constructor
  · intro h
    split at h
    · cases h
    · rename_i hnanos
      obtain ⟨hd, hs, hn⟩ := ofParts?_eq_some_iff.mp h
      rw [Int32.lt_iff_toInt_lt, Int32.toInt_zero] at hnanos
      have hseconds : i.seconds = t.seconds.toInt := by
        unfold seconds
        omega
      have hnano : (i.nano : Int) = t.nanos.toInt := by
        omega
      simp only [timestamp, hseconds, hnano, Int64.ofInt_toInt, Int32.ofInt_toInt]
  · rintro rfl
    have hvalid := i.isValid_timestamp.nanos_nonneg
    have hseconds : i.seconds = i.day * 86400 + i.second := rfl
    rw [if_neg, ofParts?_eq_some_iff, toInt_seconds_timestamp, toInt_nanos_timestamp]
    · omega
    · rw [Int32.lt_iff_toInt_lt, Int32.toInt_zero]
      omega

@[simp] theorem ofTimestamp?_timestamp (i : Instant) : ofTimestamp? i.timestamp = some i :=
  ofTimestamp?_eq_some_iff.mpr rfl

theorem exists_ofTimestamp?_iff : (∃ i, ofTimestamp? t = some i) ↔ t.IsValid := by
  constructor
  · rintro ⟨i, hi⟩
    obtain rfl := ofTimestamp?_eq_some_iff.mp hi
    exact i.isValid_timestamp
  · intro h
    obtain ⟨hfirst, hend, hnonneg, hlt⟩ := h
    refine ⟨⟨t.seconds.toInt / 86400, (t.seconds.toInt % 86400).toNat, t.nanos.toInt.toNat,
      ?_, ?_, ?_⟩, ?_⟩
    · omega
    · omega
    · omega
    · rw [ofTimestamp?, if_neg, ofParts?_eq_some_iff]
      · exact ⟨rfl, rfl, rfl⟩
      · rw [Int32.lt_iff_toInt_lt, Int32.toInt_zero]
        omega

end Instant
end SensorRelay
