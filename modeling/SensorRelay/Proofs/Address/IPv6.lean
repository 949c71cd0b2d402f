import SensorRelay.Proofs.Address.IPv4
import SensorRelay.Proofs.Uuid

/-!
# Texts of IPv6 addresses

An address has many texts: digits of either case, leading zeros, two colons in place of any run of
zero groups, an IPv4 address in place of the last two groups. Each text names one address, and the
text that is written for an address names it.
-/

namespace SensorRelay.IPv6

open Text

/-- One to four digits in either case that write a group, with leading zeros or without. -/
structure IsGroup (cs : List Char) (g : UInt16) : Prop where
  ne_nil : cs ≠ []
  length_le : cs.length ≤ 4
  toNat_lt : g.toNat < 16 ^ cs.length
  lower_eq : lower cs = hexDigits cs.length g.toNat

variable {cs ds : List Char} {g : UInt16} {gs : List UInt16} {embeds : Bool} {a : IPv6}

theorem readGroup_eq_some_iff : readGroup cs = some g ↔ IsGroup cs g := by
  unfold readGroup
  split_ifs with hbad
  · constructor
    · intro h
      cases h
    · intro h
      rcases hbad with hempty | hlong
      · exact absurd (List.isEmpty_iff.mp hempty) h.ne_nil
      · exact absurd h.length_le (Nat.not_le.mpr hlong)
  · rw [not_or, List.isEmpty_iff, Nat.not_lt] at hbad
    obtain ⟨hne, hlen⟩ := hbad
    rw [Option.map_eq_some_iff]
    constructor
    · rintro ⟨n, hn, rfl⟩
      obtain ⟨hlt, hlower⟩ := readHex_eq_some_iff.mp hn
      have hsize : 16 ^ cs.length ≤ 16 ^ 4 := Nat.pow_le_pow_right (by decide) hlen
      have hvalue : (UInt16.ofNat n).toNat = n := by
        rw [UInt16.toNat_ofNat']
        exact Nat.mod_eq_of_lt (Nat.lt_of_lt_of_le hlt hsize)
      exact ⟨hne, hlen, by rwa [hvalue], by rw [hvalue, hlower]⟩
    · intro h
      exact ⟨g.toNat, readHex_eq_some_iff.mpr ⟨h.toNat_lt, h.lower_eq⟩, UInt16.ofNat_toNat⟩

/-- A character that is no digit of an address. -/
def IsMark (c : Char) : Prop :=
  c.isDigit = false ∧ ∀ k < 16, c.toLower ≠ hexDigit k

instance (c : Char) : Decidable (IsMark c) := inferInstanceAs (Decidable (_ ∧ _))

theorem IsGroup.not_mem (h : IsGroup cs g) {c : Char} (hmark : IsMark c) : c ∉ cs := by
  intro hc
  have hlower : c.toLower ∈ hexDigits cs.length g.toNat := by
    rw [← h.lower_eq]
    exact List.mem_map_of_mem hc
  obtain ⟨k, hk, heq⟩ := exists_hexDigit_of_mem hlower
  exact hmark.2 k hk heq

theorem not_mem_chars_of_isMark {a : IPv4} {c : Char} (hmark : IsMark c) (hpoint : c ≠ '.') :
    c ∉ a.chars := by
  intro hc
  rcases IPv4.isDigit_of_mem_chars hc with h | h
  · exact hpoint h
  · rw [hmark.1] at h
    cases h

/-- Groups between colons. The last two of them may be an IPv4 address where one is admitted. -/
inductive Lists : Bool → List Char → List UInt16 → Prop
  | group {embeds : Bool} {cs : List Char} {g : UInt16} : IsGroup cs g → Lists embeds cs [g]
  | embedded (a : IPv4) : Lists true a.chars a.groups
  | cons {embeds : Bool} {cs ds : List Char} {g : UInt16} {gs : List UInt16} :
      IsGroup cs g → Lists embeds ds gs → Lists embeds (cs ++ ':' :: ds) (g :: gs)

theorem IsGroup.parse?_eq_none (hcs : IsGroup cs g) : IPv4.parse? cs = none := by
  rw [Option.eq_none_iff_forall_ne_some]
  intro a ha
  have hpoint := a.point_mem_chars
  rw [← IPv4.parse?_eq_some_iff.mp ha] at hpoint
  exact hcs.not_mem (by decide) hpoint

theorem readPieces_cons (piece : List Char) {pieces : List (List Char)} (h : pieces ≠ []) :
    readPieces embeds (piece :: pieces) =
      (readGroup piece).bind fun g => (readPieces embeds pieces).map (g :: ·) := by
  cases pieces with
  | nil => exact absurd rfl h
  | cons p ps =>
    rw [readPieces]
    · cases readGroup piece <;> cases readPieces embeds (p :: ps) <;> rfl
    · simp

theorem lists_of_readPieces {pieces : List (List Char)} (hne : pieces ≠ [])
    (h : readPieces embeds pieces = some gs) : Lists embeds ([':'].intercalate pieces) gs := by
  induction pieces generalizing gs with
  | nil => exact absurd rfl hne
  | cons piece pieces ih =>
    cases pieces with
    | nil =>
      rw [List.intercalate_singleton]
      rw [readPieces] at h
      split at h
      · rename_i a ha
        split_ifs at h with hembeds
        cases h
        subst hembeds
        rw [IPv4.parse?_eq_some_iff.mp ha]
        exact .embedded a
      · obtain ⟨g, hg, rfl⟩ := Option.map_eq_some_iff.mp h
        exact .group (readGroup_eq_some_iff.mp hg)
    | cons p ps =>
      rw [readPieces_cons _ (List.cons_ne_nil p ps)] at h
      obtain ⟨g, hg, hrest⟩ := Option.bind_eq_some_iff.mp h
      obtain ⟨hs, hread, rfl⟩ := Option.map_eq_some_iff.mp hrest
      rw [List.intercalate_cons_cons, List.append_assoc]
      exact .cons (readGroup_eq_some_iff.mp hg) (ih (List.cons_ne_nil p ps) hread)

theorem Lists.read (h : Lists embeds cs gs) :
    readPieces embeds (cs.splitOn ':') = some gs := by
  induction h with
  | group hcs =>
    rw [List.splitOn_eq_singleton (hcs.not_mem (by decide)), readPieces,
      hcs.parse?_eq_none]
    simp [readGroup_eq_some_iff.mpr hcs]
  | embedded a =>
    rw [List.splitOn_eq_singleton (not_mem_chars_of_isMark (by decide) (by decide)),
      readPieces, IPv4.parse?_eq_some_iff.mpr rfl]
    rfl
  | cons hcs _ ih =>
    rw [List.splitOn_append_cons_self_of_not_mem (hcs.not_mem (by decide)),
      readPieces_cons _ (List.splitOn_ne_nil _ _), readGroup_eq_some_iff.mpr hcs,
      Option.bind_some, ih, Option.map_some]

theorem readPieces_eq_some_iff :
    readPieces embeds (cs.splitOn ':') = some gs ↔ Lists embeds cs gs := by
  constructor
  · intro h
    have hlists := lists_of_readPieces (List.splitOn_ne_nil _ _) h
    rwa [List.intercalate_splitOn] at hlists
  · exact Lists.read

theorem Lists.not_mem (h : Lists embeds cs gs) {c : Char} (hmark : IsMark c) (hcolon : c ≠ ':')
    (hpoint : c ≠ '.') : c ∉ cs := by
  induction h with
  | group hcs => exact hcs.not_mem hmark
  | embedded a => exact not_mem_chars_of_isMark hmark hpoint
  | cons hcs _ ih => simp [hcs.not_mem hmark, hcolon, ih]

theorem exists_cons_of_not_mem {x : Char} (hne : cs ≠ []) (hx : x ∉ cs) :
    ∃ c rest, cs = c :: rest ∧ c ≠ x := by
  cases cs with
  | nil => exact absurd rfl hne
  | cons c rest =>
    refine ⟨c, rest, rfl, ?_⟩
    rintro rfl
    exact hx List.mem_cons_self

/-- A list of groups does not begin with a colon. -/
theorem Lists.exists_cons (h : Lists embeds cs gs) : ∃ c rest, cs = c :: rest ∧ c ≠ ':' := by
  cases h with
  | group hcs => exact exists_cons_of_not_mem hcs.ne_nil (hcs.not_mem (by decide))
  | embedded a =>
    apply exists_cons_of_not_mem
    · exact List.ne_nil_of_mem a.point_mem_chars
    · exact not_mem_chars_of_isMark (by decide) (by decide)
  | cons hcs _ =>
    have hcolon : ':' ∉ _ := hcs.not_mem (by decide)
    obtain ⟨c, rest, rfl, hc⟩ := exists_cons_of_not_mem hcs.ne_nil hcolon
    exact ⟨c, _, rfl, hc⟩

theorem Lists.ne_nil (h : Lists embeds cs gs) : cs ≠ [] := by
  obtain ⟨c, rest, rfl, -⟩ := h.exists_cons
  exact List.cons_ne_nil c rest

theorem cutGap_append (hcs : ':' ∉ cs) (rest : List Char) :
    cutGap (cs ++ rest) = (cutGap rest).map fun p => (cs ++ p.1, p.2) := by
  induction cs with
  | nil => simp
  | cons c cs ih =>
    rw [List.mem_cons, not_or] at hcs
    rw [List.cons_append, cutGap, ih hcs.2, Option.map_map]
    · rfl
    · intro more hc
      exact absurd hc.symm hcs.1

theorem cutGap_colon {c : Char} (hc : c ≠ ':') (rest : List Char) :
    cutGap (':' :: c :: rest) = (cutGap (c :: rest)).map fun p => (':' :: p.1, p.2) := by
  rw [cutGap]
  intro more _ hmore
  exact hc (List.cons.inj hmore).1

/-- There are no two colons side by side in a list of groups, nor at its end. -/
theorem Lists.cutGap_append (h : Lists embeds cs gs) (rest : List Char) :
    cutGap (cs ++ rest) = (cutGap rest).map fun p => (cs ++ p.1, p.2) := by
  induction h with
  | group hcs => exact IPv6.cutGap_append (hcs.not_mem (by decide)) rest
  | embedded a =>
    exact IPv6.cutGap_append (not_mem_chars_of_isMark (by decide) (by decide)) rest
  | @cons _ cs ds g gs hcs hds ih =>
    obtain ⟨c, more, hmore, hc⟩ := hds.exists_cons
    have hcolon : cutGap (':' :: (ds ++ rest)) =
        (cutGap (ds ++ rest)).map fun p => (':' :: p.1, p.2) := by
      rw [hmore]
      exact cutGap_colon hc _
    rw [List.append_assoc, List.cons_append, IPv6.cutGap_append (hcs.not_mem (by decide)), hcolon,
      ih, Option.map_map, Option.map_map]
    simp [Function.comp_def]

theorem eq_of_cutGap {before after : List Char} (h : cutGap cs = some (before, after)) :
    cs = before ++ ':' :: ':' :: after := by
  induction cs using cutGap.induct generalizing before with
  | case1 rest =>
    cases h
    rfl
  | case2 c rest hno ih =>
    rw [cutGap] at h
    · obtain ⟨p, hp, hpair⟩ := Option.map_eq_some_iff.mp h
      cases hpair
      rw [ih hp]
      rfl
    · exact hno
  | case3 => cases h

/-- The groups on one side of two colons, of which there may be none. -/
def Flanks (embeds : Bool) (cs : List Char) (gs : List UInt16) : Prop :=
  (cs = [] ∧ gs = []) ∨ Lists embeds cs gs

/-- The texts of an address: its groups, or two colons in place of at least one zero group. -/
inductive Spells : List Char → IPv6 → Prop
  | full {cs : List Char} {a : IPv6} : Lists true cs a.groups → Spells cs a
  | shortened {before after : List Char} {front back : List UInt16} {gap : Nat} {a : IPv6} :
      Flanks false before front → Flanks true after back → 0 < gap →
      a.groups = front ++ List.replicate gap 0 ++ back →
      Spells (before ++ ':' :: ':' :: after) a

theorem Flanks.not_mem (h : Flanks embeds cs gs) {c : Char} (hmark : IsMark c) (hcolon : c ≠ ':')
    (hpoint : c ≠ '.') : c ∉ cs := by
  rcases h with ⟨rfl, -⟩ | h
  · exact List.not_mem_nil
  · exact h.not_mem hmark hcolon hpoint

/-- A text of an address has only digits, colons and points in it. -/
theorem Spells.not_mem (h : Spells cs a) {c : Char} (hmark : IsMark c) (hcolon : c ≠ ':')
    (hpoint : c ≠ '.') : c ∉ cs := by
  cases h with
  | full h => exact h.not_mem hmark hcolon hpoint
  | shortened hfront hback _ _ =>
    simp [hfront.not_mem hmark hcolon hpoint, hback.not_mem hmark hcolon hpoint, hcolon]

/-- Eight groups have a colon between them. -/
theorem Lists.colon_mem (h : Lists embeds cs gs) (hlen : 2 < gs.length) : ':' ∈ cs := by
  cases h with
  | group _ => simp at hlen
  | embedded a =>
    unfold IPv4.groups at hlen
    split at hlen <;> simp at hlen
  | cons _ _ => simp

/-- A text of an address has a colon in it. -/
theorem Spells.colon_mem (h : Spells cs a) : ':' ∈ cs := by
  cases h with
  | full h =>
    apply h.colon_mem
    rw [a.length_eq]
    decide
  | shortened _ _ _ _ => simp

theorem readGroups_eq_some_iff : readGroups embeds cs = some gs ↔ Flanks embeds cs gs := by
  unfold readGroups Flanks
  split_ifs with hempty
  · rw [List.isEmpty_iff] at hempty
    constructor
    · intro h
      cases h
      exact .inl ⟨hempty, rfl⟩
    · rintro (⟨-, rfl⟩ | h)
      · rfl
      · exact absurd hempty h.ne_nil
  · rw [List.isEmpty_iff] at hempty
    simp [readPieces_eq_some_iff, hempty]

theorem Flanks.cutGap (h : Flanks false cs gs) (rest : List Char) :
    cutGap (cs ++ ':' :: ':' :: rest) = some (cs, rest) := by
  rcases h with ⟨rfl, -⟩ | h
  · rfl
  · rw [h.cutGap_append, IPv6.cutGap, Option.map_some, List.append_nil]

theorem ofGroups?_eq_some_iff : ofGroups? gs = some a ↔ a.groups = gs := by
  unfold ofGroups?
  split_ifs with hlen
  · rw [Option.some.injEq]
    constructor
    · rintro rfl
      rfl
    · rintro rfl
      rfl
  · constructor
    · intro h
      cases h
    · rintro rfl
      exact absurd a.length_eq hlen

/-- An address is read from its texts and from no other text. -/
theorem parse?_eq_some_iff : parse? cs = some a ↔ Spells cs a := by
  constructor
  · intro h
    unfold parse? at h
    split at h
    · obtain ⟨gs, hread, hgs⟩ := Option.bind_eq_some_iff.mp h
      rw [ofGroups?_eq_some_iff] at hgs
      subst hgs
      rcases readGroups_eq_some_iff.mp hread with ⟨-, hnil⟩ | hlists
      · have hlen := a.length_eq
        rw [hnil] at hlen
        cases hlen
      · exact .full hlists
    · rename_i before after hcut
      obtain ⟨front, hfront, h⟩ := Option.bind_eq_some_iff.mp h
      obtain ⟨back, hback, h⟩ := Option.bind_eq_some_iff.mp h
      split_ifs at h with hlen
      rw [eq_of_cutGap hcut]
      exact .shortened (readGroups_eq_some_iff.mp hfront) (readGroups_eq_some_iff.mp hback)
        (by omega) (ofGroups?_eq_some_iff.mp h)
  · intro h
    unfold parse?
    cases h with
    | full hlists =>
      have hcut := hlists.cutGap_append []
      rw [List.append_nil] at hcut
      have hread := readGroups_eq_some_iff.mpr (.inr hlists)
      have hof := ofGroups?_eq_some_iff.mpr (Eq.refl a.groups)
      rw [hcut]
      simp [cutGap, hread, hof]
    | @shortened before after front back gap _ hfront hback hgap hgroups =>
      have hlen := a.length_eq
      rw [hgroups, List.length_append, List.length_append, List.length_replicate] at hlen
      have hless : front.length + back.length < 8 := by omega
      have hrest : 8 - front.length - back.length = gap := by omega
      have hread := readGroups_eq_some_iff.mpr hfront
      have hread' := readGroups_eq_some_iff.mpr hback
      have hof := ofGroups?_eq_some_iff.mpr hgroups
      rw [hfront.cutGap]
      simp only [hread, hread', Option.bind_eq_bind, Option.bind_some, if_pos hless, hrest, hof]

theorem digitChar_eq_hexDigit {k : Nat} (hk : k < 16) : Nat.digitChar k = hexDigit k := by
  revert k
  decide

/-- A number is written in as many digits as it has. -/
theorem toDigits_sixteen (n : Nat) :
    n < 16 ^ (Nat.toDigits 16 n).length ∧
      Nat.toDigits 16 n = hexDigits (Nat.toDigits 16 n).length n := by
  induction n using Nat.strongRecOn with
  | ind n ih =>
    rcases Nat.lt_or_ge n 16 with hlt | hge
    · rw [Nat.toDigits_of_lt_base hlt]
      refine ⟨by simpa using hlt, ?_⟩
      simp [hexDigits, Nat.mod_eq_of_lt hlt, digitChar_eq_hexDigit hlt]
    · obtain ⟨hbound, hdigits⟩ := ih (n / 16) (by omega)
      rw [Nat.toDigits_of_base_le (by decide) hge, List.length_append, List.length_singleton]
      refine ⟨?_, ?_⟩
      · rw [Nat.pow_succ]
        omega
      · rw [hexDigits, ← hdigits, digitChar_eq_hexDigit (Nat.mod_lt n (by decide))]

theorem isGroup_toDigits (g : UInt16) : IsGroup (Nat.toDigits 16 g.toNat) g := by
  obtain ⟨hlt, hdigits⟩ := toDigits_sixteen g.toNat
  refine ⟨Nat.toDigits_ne_nil, ?_, hlt, ?_⟩
  · exact (Nat.length_toDigits_le_iff (by decide) (by decide)).mpr g.toNat_lt
  · rw [← hdigits, hdigits, lower]
    exact (List.map_congr_left toLower_of_mem_hexDigits).trans (List.map_id _)

theorem lists_joined (hgs : gs ≠ []) : Lists embeds (joined gs) gs := by
  induction gs with
  | nil => exact absurd rfl hgs
  | cons g gs ih =>
    cases gs with
    | nil =>
      have hone : joined [g] = Nat.toDigits 16 g.toNat := List.intercalate_singleton
      rw [hone]
      exact .group (isGroup_toDigits g)
    | cons h gs =>
      have hmore : joined (g :: h :: gs) =
          Nat.toDigits 16 g.toNat ++ ':' :: joined (h :: gs) := by
        simp [joined, List.intercalate_cons_cons]
      rw [hmore]
      exact .cons (isGroup_toDigits g) (ih (List.cons_ne_nil h gs))

theorem flanks_joined (gs : List UInt16) : Flanks embeds (joined gs) gs := by
  cases gs with
  | nil => exact .inl ⟨rfl, rfl⟩
  | cons g gs => exact .inr (lists_joined (List.cons_ne_nil g gs))

/-- The run that is shortened is one of zero groups. -/
theorem longestRun_le (gs : List UInt16) : (longestRun gs).2 ≤ zerosFrom gs (longestRun gs).1 := by
  unfold longestRun
  apply List.foldlRecOn (motive := fun best : Nat × Nat => best.2 ≤ zerosFrom gs best.1)
  · exact Nat.zero_le _
  · intro best hbest place _
    dsimp only
    split_ifs
    · exact Nat.le_refl _
    · exact hbest

theorem eq_zeros_append {n : Nat} (h : n ≤ (gs.takeWhile (· = 0)).length) :
    gs = List.replicate n 0 ++ gs.drop n := by
  induction n generalizing gs with
  | zero => simp
  | succ n ih =>
    cases gs with
    | nil => simp at h
    | cons g gs =>
      rw [List.takeWhile_cons] at h
      split_ifs at h with hg
      · obtain rfl := of_decide_eq_true hg
        rw [List.replicate_succ, List.cons_append, List.drop_succ_cons, ← ih (by simpa using h)]
      · simp at h

/-- What stands before the run, the run, and what stands after it. -/
theorem eq_around_longestRun {place run : Nat} (h : longestRun gs = (place, run)) :
    gs = gs.take place ++ List.replicate run 0 ++ gs.drop (place + run) := by
  have hle := longestRun_le gs
  rw [h] at hle
  have hzeros := eq_zeros_append hle
  rw [List.drop_drop] at hzeros
  rw [List.append_assoc, ← hzeros, List.take_append_drop]

/-- The text that is written for an address is one of its texts. -/
theorem spells_chars (a : IPv6) : Spells a.chars a := by
  unfold chars
  split
  · rename_i high low hgroups
    have hembedded := Lists.embedded (IPv4.ofGroups high low)
    rw [IPv4.groups_ofGroups] at hembedded
    have hback : Lists true ("ffff:".toList ++ (IPv4.ofGroups high low).chars)
        [0xFFFF, high, low] := by
      have hcs : IsGroup "ffff".toList 0xFFFF := by
        constructor <;> decide
      exact .cons hcs hembedded
    have hgap : a.groups = [] ++ List.replicate 5 0 ++ [0xFFFF, high, low] := hgroups
    exact .shortened (.inl ⟨rfl, rfl⟩) (.inr hback) (by decide) hgap
  · cases hrun : longestRun a.groups with
    | mk place run =>
      dsimp only
      split_ifs with hshort
      · apply Spells.full
        apply lists_joined
        intro hnil
        have hlen := a.length_eq
        rw [hnil] at hlen
        cases hlen
      · exact .shortened (flanks_joined _) (flanks_joined _) (by omega)
          (eq_around_longestRun hrun)

end SensorRelay.IPv6
