import SensorRelay.Proofs.Text.Words
import SensorRelay.Text.Numeral
import Mathlib.Data.List.Induction

/-!
# Reading numerals

Which texts are numerals and of which numbers. What is written for a number is read as that number.
-/

namespace SensorRelay.Text

/-- Some decimal digits, and the number that they denote. -/
structure IsDecimal (ds : List Char) (n : Nat) : Prop where
  ne_nil : ds ≠ []
  isDigit : ∀ c ∈ ds, c.isDigit = true
  value : Nat.ofDigitChars 10 ds 0 = n

/-- A numeral without a sign or with a plus sign. -/
def IsUnsigned (cs : List Char) (n : Nat) : Prop :=
  IsDecimal cs n ∨ ∃ ds, cs = '+' :: ds ∧ IsDecimal ds n

/-- A numeral with any sign or none. -/
def IsSigned (cs : List Char) (n : Int) : Prop :=
  (∃ m, IsUnsigned cs m ∧ n = m) ∨ ∃ ds m, cs = '-' :: ds ∧ IsDecimal ds m ∧ n = -(m : Int)

variable {cs ds : List Char} {n : Nat}

theorem readDigits_eq_some_iff : readDigits ds = some n ↔ IsDecimal ds n := by
  unfold readDigits
  constructor
  · intro h
    split at h
    · rename_i hds
      simp only [Bool.and_eq_true, Bool.not_eq_true', List.isEmpty_eq_false_iff,
        List.all_eq_true] at hds
      exact ⟨hds.1, hds.2, Option.some.inj h⟩
    · cases h
  · rintro ⟨hne, hdigit, rfl⟩
    have hall : ds.all Char.isDigit = true := List.all_eq_true.mpr hdigit
    simp [hne, hall]

/-- No numeral of digits begins with a sign. -/
theorem not_isDecimal_of_not_isDigit {c : Char} (hc : c.isDigit = false) :
    ¬ IsDecimal (c :: cs) n := by
  intro h
  have hdigit := h.isDigit c List.mem_cons_self
  rw [hc] at hdigit
  cases hdigit

theorem isDecimal_plus_iff : IsUnsigned ('+' :: ds) n ↔ IsDecimal ds n := by
  constructor
  · rintro (h | ⟨es, heq, h⟩)
    · exact absurd h (not_isDecimal_of_not_isDigit rfl)
    · cases heq
      exact h
  · exact fun h => .inr ⟨ds, rfl, h⟩

theorem isUnsigned_iff_of_ne_plus (h : ∀ ds, cs ≠ '+' :: ds) : IsUnsigned cs n ↔ IsDecimal cs n := by
  constructor
  · rintro (hn | ⟨ds, heq, -⟩)
    · exact hn
    · exact absurd heq (h ds)
  · exact .inl

theorem readUnsigned_eq_some_iff {limit : Nat} :
    readUnsigned limit cs = some n ↔ IsUnsigned cs n ∧ n ≤ limit := by
  unfold readUnsigned
  rw [Option.filter_eq_some_iff, decide_eq_true_iff]
  refine and_congr_left fun _ => ?_
  split
  · rw [readDigits_eq_some_iff, isDecimal_plus_iff]
  · rename_i hne
    rw [readDigits_eq_some_iff, isUnsigned_iff_of_ne_plus hne]

theorem readSigned_eq_some_iff {least greatest k : Int} :
    readSigned least greatest cs = some k ↔ IsSigned cs k ∧ least ≤ k ∧ k ≤ greatest := by
  unfold readSigned
  rw [Option.filter_eq_some_iff, Bool.and_eq_true, decide_eq_true_iff, decide_eq_true_iff]
  refine and_congr_left fun _ => ?_
  split
  · rename_i ds
    simp only [Option.map_eq_some_iff, Option.bind_eq_bind, Option.bind_eq_some_iff,
      Option.pure_def, Option.some.injEq, readDigits_eq_some_iff]
    constructor
    · rintro ⟨_, ⟨m, hm, rfl⟩, rfl⟩
      exact .inr ⟨ds, m, rfl, hm, rfl⟩
    · rintro (⟨m, hm, -⟩ | ⟨es, m, heq, hm, rfl⟩)
      · rw [isUnsigned_iff_of_ne_plus (by simp)] at hm
        exact absurd hm (not_isDecimal_of_not_isDigit rfl)
      · cases heq
        exact ⟨_, ⟨m, hm, rfl⟩, rfl⟩
  · rename_i ds
    simp only [Option.map_eq_some_iff, readDigits_eq_some_iff, IsSigned, isDecimal_plus_iff]
    constructor
    · rintro ⟨m, hm, rfl⟩
      exact .inl ⟨m, hm, rfl⟩
    · rintro (⟨m, hm, rfl⟩ | ⟨es, m, heq, -⟩)
      · exact ⟨m, hm, rfl⟩
      · cases heq
  · rename_i hminus hplus
    simp only [Option.map_eq_some_iff, readDigits_eq_some_iff, IsSigned,
      isUnsigned_iff_of_ne_plus hplus]
    constructor
    · rintro ⟨m, hm, rfl⟩
      exact .inl ⟨m, hm, rfl⟩
    · rintro (⟨m, hm, rfl⟩ | ⟨es, m, heq, -⟩)
      · exact ⟨m, hm, rfl⟩
      · exact absurd heq (hminus es)

theorem isDecimal_toDigits (n : Nat) : IsDecimal (Nat.toDigits 10 n) n :=
  readDigits_eq_some_iff.mp (readDigits_toDigits n)

/-- A numeral of more than one digit does not begin with a zero. -/
theorem toDigits_ne_zero_cons (n : Nat) (c : Char) (cs : List Char) :
    Nat.toDigits 10 n ≠ '0' :: c :: cs := by
  induction n using Nat.strongRecOn generalizing c cs with
  | ind n ih =>
    rcases Nat.lt_or_ge n 10 with hlt | hge
    · rw [Nat.toDigits_of_lt_base hlt]
      simp
    · intro h
      rw [Nat.toDigits_of_base_le (by decide) hge] at h
      cases hds : Nat.toDigits 10 (n / 10) with
      | nil => exact Nat.toDigits_ne_nil hds
      | cons d ds =>
        rw [hds, List.cons_append, List.cons.injEq] at h
        obtain ⟨rfl, h⟩ := h
        cases ds with
        | nil =>
          have hzero : n / 10 = 0 := by
            rw [← Nat.ofDigitChars_ten_toDigits (n := n / 10), hds]
            rfl
          omega
        | cons e ds => exact ih (n / 10) (by omega) e ds hds

/-- Every digit is the one of a number below ten. -/
theorem exists_digitChar {c : Char} (hc : c.isDigit = true) :
    ∃ d < 10, c = Nat.digitChar d ∧ c.toNat - '0'.toNat = d := by
  have hrange : 48 ≤ c.toNat ∧ c.toNat ≤ 57 := Char.isDigit_iff_toNat.mp hc
  have hlt : c.toNat - 48 < 10 := by omega
  refine ⟨c.toNat - 48, hlt, ?_, rfl⟩
  apply Char.toNat_inj.mp
  rw [Nat.toNat_digitChar_of_lt_ten hlt]
  omega

/-- Digits without a leading zero are the numeral that is written for their number. -/
theorem IsDecimal.eq_toDigits (h : IsDecimal ds n) (hzero : ds.head? = some '0' → ds.length = 1) :
    ds = Nat.toDigits 10 n := by
  induction ds using List.reverseRecOn generalizing n with
  | nil => exact absurd rfl h.ne_nil
  | append_singleton ds c ih =>
    obtain ⟨d, hd, rfl, hvalue⟩ := exists_digitChar (h.isDigit c (by simp))
    have hn : 10 * Nat.ofDigitChars 10 ds 0 + d = n := by
      rw [← h.value, Nat.ofDigitChars_append, Nat.ofDigitChars_cons, hvalue, Nat.ofDigitChars_nil]
    by_cases hds : ds = []
    · subst hds
      rw [Nat.ofDigitChars_nil] at hn
      obtain rfl : d = n := by omega
      exact (Nat.toDigits_of_lt_base hd).symm
    · have hhead : ds.head? ≠ some '0' := by
        intro hhead
        have hone := hzero (by rw [List.head?_append, hhead, Option.some_or])
        have hlen := List.length_pos_iff.mpr hds
        rw [List.length_append, List.length_singleton] at hone
        omega
      have hdecimal : IsDecimal ds (Nat.ofDigitChars 10 ds 0) :=
        ⟨hds, fun x hx => h.isDigit x (List.mem_append_left _ hx), rfl⟩
      have heq := ih hdecimal fun hno => absurd hno hhead
      have hpos : Nat.ofDigitChars 10 ds 0 ≠ 0 := by
        intro hnone
        rw [hnone, Nat.toDigits_zero] at heq
        exact hhead (by rw [heq]; rfl)
      have hdiv : n / 10 = Nat.ofDigitChars 10 ds 0 := by omega
      have hmod : n % 10 = d := by omega
      rw [Nat.toDigits_of_base_le (by decide) (by omega), hdiv, hmod, ← heq]

theorem isUnsigned_numeral (n : Nat) : IsUnsigned (numeral n).toList n := by
  rw [numeral, String.toList_ofList]
  exact .inl (isDecimal_toDigits n)

theorem isSigned_signedNumeral (k : Int) : IsSigned (signedNumeral k).toList k := by
  cases k with
  | ofNat n => exact .inl ⟨n, isUnsigned_numeral n, rfl⟩
  | negSucc n =>
    refine .inr ⟨Nat.toDigits 10 (n + 1), n + 1, ?_, isDecimal_toDigits (n + 1), rfl⟩
    simp [signedNumeral, numeral]

theorem isBlank_of_isDigit {c : Char} (hc : c.isDigit = true) : isBlank c = false := by
  have hrange : 48 ≤ c.toNat ∧ c.toNat ≤ 57 := by
    simpa [Char.isDigit, UInt32.le_iff_toNat_le] using hc
  simp only [isBlank, Bool.or_eq_false_iff, Bool.and_eq_false_iff, decide_eq_false_iff_not,
    beq_eq_false_iff_ne]
  omega

theorem isWord_numeral (n : Nat) : IsWord (numeral n) := by
  have h := isDecimal_toDigits n
  rw [numeral]
  constructor
  · rw [String.toList_ofList]
    exact h.ne_nil
  · intro c hc
    rw [String.toList_ofList] at hc
    exact isBlank_of_isDigit (h.isDigit c hc)

theorem isWord_signedNumeral (k : Int) : IsWord (signedNumeral k) := by
  cases k with
  | ofNat n => exact isWord_numeral n
  | negSucc n =>
    have htext : signedNumeral (.negSucc n) = String.ofList ('-' :: (numeral (n + 1)).toList) := by
      rw [← String.toList_inj, String.toList_ofList, signedNumeral, String.toList_append]
      rfl
    rw [htext]
    exact (isWord_numeral (n + 1)).cons rfl

end SensorRelay.Text
