import SensorRelay.Uuid
import Mathlib.Algebra.Ring.Nat
import Mathlib.Data.List.Induction
import Mathlib.Tactic.SplitIfs

/-!
# Spellings of a UUID

A text names a UUID exactly when it is one of its four spellings, but for the case of the letters.
The printed text is one of them, so no two UUIDs are printed alike.
-/

namespace SensorRelay

namespace Text

/-- A text in lower case. -/
def lower (cs : List Char) : List Char :=
  cs.map Char.toLower

@[simp] theorem length_lower (cs : List Char) : (lower cs).length = cs.length :=
  List.length_map _

/-- What holds of every ASCII character, and of every character that is its own lower case. -/
theorem forall_char {P : Char → Prop} (hascii : ∀ k < 128, P (Char.ofNat k))
    (hother : ∀ c : Char, 128 ≤ c.toNat → c.toLower = c → P c) (c : Char) : P c := by
  rcases Nat.lt_or_ge c.toNat 128 with hc | hc
  · have h := hascii c.toNat hc
    rwa [Char.ofNat_toNat] at h
  · refine hother c hc (dif_neg fun hno => ?_)
    have hle : c.toNat ≤ 90 := UInt32.le_iff_toNat_le.mp hno.2
    omega

theorem lt_of_hexValue?_eq_some {c : Char} {n : Nat} (h : hexValue? c = some n) : n < 16 := by
  simp only [hexValue?] at h
  split_ifs at h <;> cases h <;> omega

theorem toNat_hexDigit_lt {n : Nat} (h : n < 16) : (hexDigit n).toNat < 128 := by
  revert n
  decide

/-- A character is a digit in either case when its lower case is the digit. -/
theorem hexValue?_eq_some_iff {c : Char} {n : Nat} :
    hexValue? c = some n ↔ n < 16 ∧ c.toLower = hexDigit n := by
  rcases Nat.lt_or_ge n 16 with hn | hn
  · rw [and_iff_right hn]
    revert n
    refine forall_char (P := fun c => ∀ {n : Nat}, n < 16 →
      (hexValue? c = some n ↔ c.toLower = hexDigit n)) (by decide +kernel) ?_ c
    intro c hc hlower n hn
    have hnone : hexValue? c = none := by
      simp only [hexValue?]
      split_ifs <;> first | omega | rfl
    have hne : c ≠ hexDigit n := by
      rintro rfl
      exact absurd (toNat_hexDigit_lt hn) (Nat.not_lt.mpr hc)
    simp [hnone, hlower, hne]
  · constructor
    · intro h
      exact absurd (lt_of_hexValue?_eq_some h) (Nat.not_lt.mpr hn)
    · rintro ⟨h, -⟩
      exact absurd h (Nat.not_lt.mpr hn)

theorem readHex_concat (cs : List Char) (c : Char) :
    readHex (cs ++ [c]) = (readHex cs).bind fun n => (hexValue? c).map (16 * n + ·) := by
  simp [readHex]

/-- A run of digits writes a number exactly when its lower case is the number at that width. -/
theorem readHex_eq_some_iff {cs : List Char} {n : Nat} :
    readHex cs = some n ↔ n < 16 ^ cs.length ∧ lower cs = hexDigits cs.length n := by
  induction cs using List.reverseRecOn generalizing n with
  | nil => simp [readHex, lower, hexDigits, eq_comm]
  | append_singleton cs c ih =>
    rw [readHex_concat, List.length_append, List.length_singleton, hexDigits, lower,
      List.map_append, List.map_singleton, Nat.pow_succ]
    constructor
    · intro h
      obtain ⟨m, hm, hn⟩ := Option.bind_eq_some_iff.mp h
      obtain ⟨d, hd, rfl⟩ := Option.map_eq_some_iff.mp hn
      obtain ⟨hmlt, hcs⟩ := ih.mp hm
      obtain ⟨hdlt, hc⟩ := hexValue?_eq_some_iff.mp hd
      have hdiv : (16 * m + d) / 16 = m := by omega
      have hmod : (16 * m + d) % 16 = d := by omega
      refine ⟨by omega, ?_⟩
      rw [hdiv, hmod, ← hcs, hc]
      rfl
    · rintro ⟨hn, heq⟩
      obtain ⟨hcs, hc⟩ := List.append_inj' heq rfl
      have hm := ih.mpr ⟨Nat.div_lt_of_lt_mul (by omega), hcs⟩
      have hd := hexValue?_eq_some_iff.mpr ⟨Nat.mod_lt n (by decide), List.singleton_inj.mp hc⟩
      rw [hm, Option.bind_some, hd, Option.map_some, Nat.div_add_mod]

theorem toLower_hexDigit {n : Nat} (h : n < 16) : (hexDigit n).toLower = hexDigit n := by
  revert n
  decide

theorem toLower_of_mem_hexDigits {width n : Nat} :
    ∀ c ∈ hexDigits width n, c.toLower = c := by
  induction width generalizing n with
  | zero => simp [hexDigits]
  | succ width ih =>
    intro c hc
    rcases List.mem_append.mp hc with hc | hc
    · exact ih c hc
    · rw [List.mem_singleton.mp hc]
      exact toLower_hexDigit (Nat.mod_lt n (by decide))

theorem exists_hexDigit_of_mem {width n : Nat} {c : Char} (hc : c ∈ hexDigits width n) :
    ∃ k < 16, c = hexDigit k := by
  induction width generalizing n with
  | zero => cases hc
  | succ width ih =>
    rcases List.mem_append.mp hc with hc | hc
    · exact ih hc
    · exact ⟨n % 16, Nat.mod_lt n (by decide), List.mem_singleton.mp hc⟩

/-- The characters of a spelling that are no letters. -/
def marks : List Char := ['-', '{', '}']

theorem toLower_eq_iff {c x : Char} (hx : x ∈ marks) : c.toLower = x ↔ c = x := by
  have hall : (marks.all fun x => (c.toLower == x) == (c == x)) = true := by
    refine forall_char (P := fun c => (marks.all fun x => (c.toLower == x) == (c == x)) = true)
      (by decide +kernel) ?_ c
    intro c hc hlower
    simp [hlower]
  have hsame := beq_iff_eq.mp (List.all_eq_true.mp hall x hx)
  rw [← beq_iff_eq, hsame, beq_iff_eq]

theorem hyphen_not_mem_hexDigits (width n : Nat) : '-' ∉ hexDigits width n := by
  induction width generalizing n with
  | zero => simp [hexDigits]
  | succ width ih =>
    have hne : ∀ k < 16, '-' ≠ hexDigit k := by decide
    simp [hexDigits, ih, hne (n % 16) (Nat.mod_lt n (by decide))]

theorem splitOn_lower (cs : List Char) :
    (lower cs).splitOn '-' = (cs.splitOn '-').map lower := by
  induction cs with
  | nil => rfl
  | cons c cs ih =>
    have hcons : lower (c :: cs) = c.toLower :: lower cs := rfl
    rw [hcons, List.splitOn_cons_eq_if_modifyHead, List.splitOn_cons_eq_if_modifyHead, ih]
    by_cases hc : c = '-'
    · simp [hc, lower]
    · have hlower : c.toLower ≠ '-' := fun h => hc ((toLower_eq_iff (by decide)).mp h)
      simp only [beq_iff_eq, hc, hlower, if_false]
      cases cs.splitOn '-' <;> rfl

end Text

namespace Uuid

open Text

variable {u : Uuid} {cs : List Char}

/-- The thirty-two digits of an id. -/
def digits (u : Uuid) : List Char :=
  hexDigits 32 u.value.toNat

/-- Digits in groups. -/
def grouped (cs : List Char) : List Char :=
  ['-'].intercalate (cut groupLengths cs)

theorem text_eq (u : Uuid) : u.text = String.ofList (grouped u.digits) := rfl

theorem ofDigits?_eq_some_iff : ofDigits? cs = some u ↔ lower cs = u.digits := by
  unfold ofDigits? digits
  split_ifs with hlen
  · rw [Option.map_eq_some_iff]
    constructor
    · rintro ⟨n, hn, rfl⟩
      obtain ⟨hlt, hcs⟩ := readHex_eq_some_iff.mp hn
      rw [hlen] at hlt hcs
      have hmod : n % 2 ^ 128 = n := Nat.mod_eq_of_lt hlt
      rw [hcs, BitVec.toNat_ofNat, hmod]
    · intro hcs
      refine ⟨u.value.toNat, readHex_eq_some_iff.mpr ⟨?_, by rw [hlen, hcs]⟩, ?_⟩
      · rw [hlen]
        exact u.value.isLt
      · rw [BitVec.ofNat_toNat, BitVec.setWidth_eq]
  · constructor
    · intro h
      cases h
    · intro hcs
      have hlen' := congrArg List.length hcs
      rw [length_lower, length_hexDigits] at hlen'
      exact absurd hlen' hlen

theorem cut_flatten {groups : List (List Char)} :
    cut (groups.map List.length) groups.flatten = groups := by
  induction groups with
  | nil => rfl
  | cons g groups ih => simp [cut, ih]

theorem flatten_cut {lengths : List Nat} (hcs : cs.length = lengths.sum) :
    (cut lengths cs).flatten = cs := by
  induction lengths generalizing cs with
  | nil => simpa [cut, eq_comm] using hcs
  | cons n lengths ih =>
    rw [List.sum_cons] at hcs
    rw [cut, List.flatten_cons, ih (by rw [List.length_drop]; omega), List.take_append_drop]

theorem map_length_cut {lengths : List Nat} (hcs : cs.length = lengths.sum) :
    (cut lengths cs).map List.length = lengths := by
  induction lengths generalizing cs with
  | nil => rfl
  | cons n lengths ih =>
    rw [List.sum_cons] at hcs
    rw [cut, List.map_cons, ih (by rw [List.length_drop]; omega), List.length_take]
    congr 1
    omega

theorem mem_of_mem_cut {lengths : List Nat} {g : List Char} (hg : g ∈ cut lengths cs) :
    ∀ c ∈ g, c ∈ cs := by
  induction lengths generalizing cs with
  | nil => cases hg
  | cons n lengths ih =>
    intro c hc
    rcases List.mem_cons.mp hg with rfl | hg
    · exact List.mem_of_mem_take hc
    · exact List.mem_of_mem_drop (ih hg c hc)

theorem length_digits : u.digits.length = groupLengths.sum :=
  length_hexDigits 32 u.value.toNat

theorem hyphen_not_mem_cut {lengths : List Nat} : ∀ g ∈ cut lengths u.digits, '-' ∉ g :=
  fun _ hg hc => hyphen_not_mem_hexDigits 32 u.value.toNat (mem_of_mem_cut hg _ hc)

/-- A text is in groups exactly when cutting it at its hyphens gives the groups. -/
theorem lower_eq_grouped_iff :
    lower cs = grouped u.digits ↔ (cs.splitOn '-').map lower = cut groupLengths u.digits := by
  rw [← splitOn_lower]
  constructor
  · intro h
    rw [h, grouped, List.splitOn_intercalate _ hyphen_not_mem_cut (by simp [cut, groupLengths])]
  · intro h
    rw [grouped, ← h, List.intercalate_splitOn]

theorem ofHyphenated?_eq_some_iff : ofHyphenated? cs = some u ↔ lower cs = grouped u.digits := by
  rw [lower_eq_grouped_iff, ofHyphenated?]
  have hlengths :
      ((cs.splitOn '-').map lower).map List.length = (cs.splitOn '-').map List.length := by
    rw [List.map_map]
    exact List.map_congr_left fun g _ => length_lower g
  have hflatten : lower (cs.splitOn '-').flatten = ((cs.splitOn '-').map lower).flatten :=
    List.map_flatten
  split_ifs with hlen
  · rw [ofDigits?_eq_some_iff, hflatten]
    constructor
    · intro h
      rw [← h, ← hlen, ← hlengths, cut_flatten]
    · intro h
      rw [h, flatten_cut length_digits]
  · constructor
    · intro h
      cases h
    · intro h
      rw [← hlengths, h, map_length_cut length_digits] at hlen
      exact absurd rfl hlen

inductive Form
  | simple
  | hyphenated
  | braced
  | urn
deriving DecidableEq

/-- A UUID in that form, in lower case. -/
def spelled (u : Uuid) : Form → List Char
  | .simple => u.digits
  | .hyphenated => grouped u.digits
  | .braced => '{' :: grouped u.digits ++ ['}']
  | .urn => urnPrefix ++ grouped u.digits

/-- The number of characters of each form. -/
def Form.length : Form → Nat
  | simple => 32
  | hyphenated => 36
  | braced => 38
  | urn => 45

theorem length_grouped (hcs : cs.length = 32) : (grouped cs).length = 36 := by
  simp [grouped, cut, groupLengths, List.intercalate, List.intersperse, hcs]

theorem length_urnPrefix : urnPrefix.length = 9 := by
  decide

theorem length_spelled (form : Form) : (u.spelled form).length = form.length := by
  have hdigits : u.digits.length = 32 := length_digits
  cases form with
  | simple => exact hdigits
  | hyphenated => exact length_grouped hdigits
  | braced =>
    rw [spelled, List.length_append, List.length_cons, length_grouped hdigits]
    rfl
  | urn =>
    rw [spelled, List.length_append, length_grouped hdigits, length_urnPrefix]
    rfl

theorem lower_append (cs ds : List Char) : lower (cs ++ ds) = lower cs ++ lower ds :=
  List.map_append

theorem lower_eq_braced_iff {g : List Char} :
    lower cs = '{' :: g ++ ['}'] ↔ ∃ inner, cs = '{' :: inner ++ ['}'] ∧ lower inner = g := by
  constructor
  · intro h
    obtain ⟨front, last, rfl, hfront, hlast⟩ := List.map_eq_append_iff.mp h
    obtain ⟨c, inner, rfl, hc, hinner⟩ := List.map_eq_cons_iff.mp hfront
    obtain ⟨x, rfl, hx⟩ := List.map_eq_singleton_iff.mp hlast
    rw [(toLower_eq_iff (by decide)).mp hc, (toLower_eq_iff (by decide)).mp hx]
    exact ⟨inner, rfl, hinner⟩
  · rintro ⟨inner, rfl, rfl⟩
    rw [lower_append]
    rfl

theorem lower_eq_urn_iff {g : List Char} :
    lower cs = urnPrefix ++ g ↔ lower (cs.take 9) = urnPrefix ∧ lower (cs.drop 9) = g := by
  have hcs := congrArg lower (List.take_append_drop 9 cs)
  rw [lower_append] at hcs
  constructor
  · intro h
    have hlen := congrArg List.length h
    rw [length_lower, List.length_append, length_urnPrefix] at hlen
    rw [← hcs] at h
    refine List.append_inj h ?_
    rw [length_lower, length_urnPrefix, List.length_take]
    omega
  · rintro ⟨hp, hg⟩
    rw [← hcs, hp, hg]

theorem eq_braced {cs : List Char} (hlen : 2 ≤ cs.length) (hhead : cs.head? = some '{')
    (hlast : cs.getLast? = some '}') : cs = '{' :: (cs.drop 1).dropLast ++ ['}'] := by
  cases cs with
  | nil => cases hhead
  | cons c rest =>
    have hne : rest ≠ [] := by
      rintro rfl
      exact absurd hlen (by simp)
    have hc : c = '{' := Option.some.inj hhead
    have hx : rest.getLast hne = '}' := by
      rw [List.getLast?_eq_some_getLast (List.cons_ne_nil c rest), List.getLast_cons hne] at hlast
      exact Option.some.inj hlast
    subst hc
    rw [List.drop_one, List.tail_cons, List.cons_append, ← hx, List.dropLast_concat_getLast]

/-- A text names a UUID exactly when it is one of its spellings, but for the case of the letters. -/
theorem parse?_eq_some_iff {s : String} :
    parse? s = some u ↔ ∃ form, lower s.toList = u.spelled form := by
  have hlength {form : Form} (h : lower s.toList = u.spelled form) :
      s.toList.length = form.length := by
    rw [← length_lower, h, length_spelled]
  unfold parse?
  dsimp only
  generalize s.toList = cs at hlength ⊢
  split_ifs with h32 h38 h45
  · rw [ofDigits?_eq_some_iff]
    refine ⟨fun h => ⟨.simple, h⟩, ?_⟩
    rintro ⟨form, h⟩
    have hform := (hlength h).symm.trans h32
    cases form with
    | simple => exact h
    | _ => cases hform
  · obtain ⟨hlen, hhead, hlast⟩ := h38
    have hbraced := eq_braced (by omega) hhead hlast
    rw [ofHyphenated?_eq_some_iff]
    refine ⟨fun h => ⟨.braced, lower_eq_braced_iff.mpr ⟨_, hbraced, h⟩⟩, ?_⟩
    rintro ⟨form, h⟩
    have hform := (hlength h).symm.trans hlen
    cases form with
    | braced =>
      obtain ⟨inner, rfl, hinner⟩ := lower_eq_braced_iff.mp h
      simpa using hinner
    | _ => cases hform
  · obtain ⟨hlen, hurn⟩ := h45
    rw [ofHyphenated?_eq_some_iff]
    refine ⟨fun h => ⟨.urn, lower_eq_urn_iff.mpr ⟨hurn, h⟩⟩, ?_⟩
    rintro ⟨form, h⟩
    have hform := (hlength h).symm.trans hlen
    cases form with
    | urn => exact (lower_eq_urn_iff.mp h).2
    | _ => cases hform
  · rw [ofHyphenated?_eq_some_iff]
    refine ⟨fun h => ⟨.hyphenated, h⟩, ?_⟩
    rintro ⟨form, h⟩
    cases form with
    | simple => exact absurd (hlength h) h32
    | hyphenated => exact h
    | braced =>
      obtain ⟨inner, rfl, -⟩ := lower_eq_braced_iff.mp h
      exact absurd ⟨hlength h, rfl, List.getLast?_concat⟩ h38
    | urn => exact absurd ⟨hlength h, (lower_eq_urn_iff.mp h).1⟩ h45

theorem parse?_text (u : Uuid) : parse? u.text = some u := by
  refine parse?_eq_some_iff.mpr ⟨.hyphenated, ?_⟩
  rw [text_eq, String.toList_ofList]
  refine lower_eq_grouped_iff.mpr ?_
  rw [grouped, List.splitOn_intercalate _ hyphen_not_mem_cut (by simp [cut, groupLengths])]
  refine (List.map_congr_left fun g hg => ?_).trans (List.map_id _)
  refine (List.map_congr_left fun c hc => ?_).trans (List.map_id _)
  exact toLower_of_mem_hexDigits c (mem_of_mem_cut hg c hc)

theorem text_injective {u v : Uuid} (h : u.text = v.text) : u = v := by
  have hu := parse?_text u
  rw [h, parse?_text] at hu
  exact (Option.some.inj hu).symm

theorem text_inj {u v : Uuid} : u.text = v.text ↔ u = v :=
  ⟨text_injective, congrArg text⟩

end Uuid
end SensorRelay
