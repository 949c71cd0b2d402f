import SensorRelay.SocketAddress
import SensorRelay.Proofs.Text.Numeral

/-!
# Texts of IPv4 addresses

An octet is read from its numeral and from no other text, since a leading zero is refused. An
address is therefore read from exactly one text, the one that is written for it.
-/

namespace SensorRelay

namespace Text

theorem mapM_eq_some_iff {α β : Type} {f : α → Option β} {g : β → α}
    (h : ∀ x y, f x = some y ↔ x = g y) {xs : List α} {ys : List β} :
    xs.mapM f = some ys ↔ xs = ys.map g := by
  induction xs generalizing ys with
  | nil => cases ys <;> simp
  | cons x xs ih =>
    cases ys with
    | nil => simp [List.mapM_cons, Option.bind_eq_bind, Option.bind_eq_some_iff]
    | cons y ys => simp [List.mapM_cons, Option.bind_eq_some_iff, h, ih]

theorem mem_intercalate {α : Type} {x a : α} {ls : List (List α)}
    (h : a ∈ [x].intercalate ls) : a = x ∨ ∃ l ∈ ls, a ∈ l := by
  induction ls with
  | nil => simp at h
  | cons l ls ih =>
    cases ls with
    | nil => exact .inr ⟨l, by simp, by simpa using h⟩
    | cons m ls =>
      rw [List.intercalate_cons_cons, List.mem_append, List.mem_append, List.mem_singleton] at h
      rcases h with (h | rfl) | h
      · exact .inr ⟨l, by simp, h⟩
      · exact .inl rfl
      · obtain rfl | ⟨k, hk, ha⟩ := ih h
        · exact .inl rfl
        · exact .inr ⟨k, List.mem_cons_of_mem l hk, ha⟩

end Text

namespace IPv4

open Text

variable {cs : List Char} {a : IPv4} {b : UInt8}

/-- The text of an octet. -/
def octetChars (b : UInt8) : List Char :=
  Nat.toDigits 10 b.toNat

theorem readOctet_eq_some_iff : readOctet cs = some b ↔ cs = octetChars b := by
  have hlt : b.toNat < 10 ^ 3 := Nat.lt_trans b.toNat_lt (by decide)
  have hlen : (octetChars b).length ≤ 3 :=
    (Nat.length_toDigits_le_iff (by decide) (by decide)).mpr hlt
  unfold readOctet
  split_ifs with hbad
  · constructor
    · intro h
      cases h
    · rintro rfl
      rcases hbad with hlong | ⟨hzero, hlong⟩
      · exact absurd hlen (Nat.not_le.mpr hlong)
      · -- a numeral of several digits would begin with a zero
        cases hds : octetChars b with
        | nil => simp [hds] at hzero
        | cons c ds =>
          rw [hds] at hzero hlong
          obtain rfl := Option.some.inj hzero
          cases ds with
          | nil => simp at hlong
          | cons d ds => exact absurd hds (toDigits_ne_zero_cons b.toNat d ds)
  · rw [Option.map_eq_some_iff]
    constructor
    · rintro ⟨n, hn, rfl⟩
      obtain ⟨hread, hle⟩ := Option.filter_eq_some_iff.mp hn
      have hdecimal := readDigits_eq_some_iff.mp hread
      have hsmall : n < 256 := Nat.lt_succ_of_le (of_decide_eq_true hle)
      rw [octetChars, UInt8.toNat_ofNat', Nat.mod_eq_of_lt hsmall]
      apply hdecimal.eq_toDigits
      intro hzero
      have hpos := List.length_pos_iff.mpr hdecimal.ne_nil
      by_contra hne
      exact hbad (.inr ⟨hzero, by omega⟩)
    · rintro rfl
      refine ⟨b.toNat, Option.filter_eq_some_iff.mpr ⟨readDigits_toDigits _, ?_⟩,
        UInt8.ofNat_toNat⟩
      exact decide_eq_true (Nat.le_of_lt_succ b.toNat_lt)

theorem isDigit_of_mem_octetChars {c : Char} (hc : c ∈ octetChars b) : c.isDigit = true :=
  Nat.isDigit_of_mem_toDigits (by decide) (by decide) hc

theorem chars_eq (a : IPv4) : a.chars = ['.'].intercalate (a.octets.map octetChars) := rfl

theorem octets_ne_nil (a : IPv4) : a.octets ≠ [] := by
  intro h
  have hlen := a.length_eq
  rw [h] at hlen
  cases hlen

/-- The points of a text divide its octets. -/
theorem splitOn_chars (a : IPv4) : a.chars.splitOn '.' = a.octets.map octetChars := by
  apply List.splitOn_intercalate
  · intro cs hcs hpoint
    obtain ⟨b, -, rfl⟩ := List.mem_map.mp hcs
    exact absurd (isDigit_of_mem_octetChars hpoint) (by decide)
  · simpa using a.octets_ne_nil

/-- An address is read from its own text only. -/
theorem parse?_eq_some_iff : parse? cs = some a ↔ cs = a.chars := by
  unfold parse?
  rw [Option.bind_eq_some_iff]
  constructor
  · rintro ⟨octets, hoctets, h⟩
    split_ifs at h with hlen
    obtain rfl := Option.some.inj h
    have hpieces := (mapM_eq_some_iff fun _ _ => readOctet_eq_some_iff).mp hoctets
    rw [chars_eq, ← hpieces, List.intercalate_splitOn]
  · rintro rfl
    refine ⟨a.octets, ?_, by rw [dif_pos a.length_eq]⟩
    rw [splitOn_chars]
    exact (mapM_eq_some_iff fun _ _ => readOctet_eq_some_iff).mpr rfl

theorem isDigit_of_mem_chars {c : Char} (hc : c ∈ a.chars) : c = '.' ∨ c.isDigit = true := by
  rcases mem_intercalate hc with hpoint | ⟨cs, hcs, hc⟩
  · exact .inl hpoint
  · obtain ⟨b, -, rfl⟩ := List.mem_map.mp hcs
    exact .inr (isDigit_of_mem_octetChars hc)

theorem point_mem_chars (a : IPv4) : '.' ∈ a.chars := by
  by_contra hno
  have hlen := congrArg List.length (List.splitOn_eq_singleton hno)
  rw [splitOn_chars, List.length_map, a.length_eq] at hlen
  cases hlen

theorem groups_ofGroups (high low : UInt16) : (ofGroups high low).groups = [high, low] := by
  have hjoin (g : UInt16) : UInt16.ofNat ((UInt8.ofNat (g.toNat / 256)).toNat * 256 +
      (UInt8.ofNat (g.toNat % 256)).toNat) = g := by
    have hlt := g.toNat_lt
    have hdiv : g.toNat / 256 < 256 := by omega
    have hmod : g.toNat % 256 < 256 := Nat.mod_lt _ (by decide)
    rw [UInt8.toNat_ofNat', UInt8.toNat_ofNat', Nat.mod_eq_of_lt hdiv, Nat.mod_eq_of_lt hmod,
      Nat.div_add_mod', UInt16.ofNat_toNat]
  exact congrArg₂ (fun x y => [x, y]) (hjoin high) (hjoin low)

end IPv4
end SensorRelay
