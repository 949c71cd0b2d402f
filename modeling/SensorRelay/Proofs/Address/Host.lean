import SensorRelay.Config.Settings
import SensorRelay.Proofs.Address.IPv6

/-!
# Hosts and ports

A socket address is written as a host, a colon and a port. A port has no colon in it, so the last
colon divides the two, and a text that serves as a host has no say in the port.
-/

namespace SensorRelay

open Text

inductive HostAddress
  | v4 (address : IPv4)
  | v6 (address : IPv6) (scope : UInt32)
deriving DecidableEq

namespace HostAddress

def withPort : HostAddress → UInt16 → SocketAddress
  | v4 address, port => .v4 address port
  | v6 address scope, port => .v6 address scope port

/-- The texts of an IPv6 address with the number of its scope, or without one. -/
inductive IsScoped : List Char → IPv6 → UInt32 → Prop
  | bare {cs : List Char} {a : IPv6} : IPv6.Spells cs a → IsScoped cs a 0
  | numbered {cs ds : List Char} {a : IPv6} {scope : UInt32} :
      IPv6.Spells cs a → IsDecimal ds scope.toNat → IsScoped (cs ++ '%' :: ds) a scope

/-- The texts of a host. An IPv6 address stands in brackets. -/
inductive IsWritten : List Char → HostAddress → Prop
  | v4 (a : IPv4) : IsWritten a.chars (v4 a)
  | v6 {cs : List Char} {a : IPv6} {scope : UInt32} :
      IsScoped cs a scope → IsWritten ('[' :: (cs ++ [']'])) (v6 a scope)

end HostAddress

namespace SocketAddress

open HostAddress

variable {cs ds : List Char} {a : SocketAddress} {address : IPv6} {scope : UInt32} {port : UInt16}

theorem not_mem_of_isDecimal {n : Nat} (h : IsDecimal ds n) {c : Char} (hc : c.isDigit = false) :
    c ∉ ds := by
  intro hmem
  rw [h.isDigit c hmem] at hc
  cases hc

/-- A number below a bound is read from its numerals, however many zeros lead them. -/
theorem bounded_eq_some_iff {α : Type} {size : Nat} {ofNat : Nat → α} {toNat : α → Nat} {x : α}
    (hlt : toNat x < size) (hx : ofNat (toNat x) = x) (hof : ∀ n < size, toNat (ofNat n) = n) :
    ((readDigits ds).filter (· < size)).map ofNat = some x ↔ IsDecimal ds (toNat x) := by
  simp only [Option.map_eq_some_iff, Option.filter_eq_some_iff, readDigits_eq_some_iff,
    decide_eq_true_eq]
  constructor
  · rintro ⟨n, ⟨hn, hsmall⟩, rfl⟩
    rwa [hof n hsmall]
  · intro h
    exact ⟨toNat x, ⟨h, hlt⟩, hx⟩

theorem readScope_eq_some_iff : readScope ds = some scope ↔ IsDecimal ds scope.toNat :=
  bounded_eq_some_iff scope.toNat_lt UInt32.ofNat_toNat fun _ h => UInt32.toNat_ofNat_of_lt h

theorem readPort_eq_some_iff : readPort ds = some port ↔ IsDecimal ds port.toNat :=
  bounded_eq_some_iff port.toNat_lt UInt16.ofNat_toNat fun _ h => UInt16.toNat_ofNat_of_lt h

theorem readScoped_eq_some_iff :
    readScoped cs = some (address, scope) ↔ IsScoped cs address scope := by
  constructor
  · intro h
    have hjoin : ['%'].intercalate (cs.splitOn '%') = cs := List.intercalate_splitOn '%'
    unfold readScoped at h
    split at h
    · rename_i text hsplit
      obtain ⟨a, ha, hpair⟩ := Option.map_eq_some_iff.mp h
      cases hpair
      rw [hsplit, List.intercalate_singleton] at hjoin
      rw [← hjoin]
      exact .bare (IPv6.parse?_eq_some_iff.mp ha)
    · rename_i text digits hsplit
      obtain ⟨a, ha, h⟩ := Option.bind_eq_some_iff.mp h
      obtain ⟨n, hn, hpair⟩ := Option.bind_eq_some_iff.mp h
      cases hpair
      rw [hsplit, List.intercalate_cons_cons, List.intercalate_singleton,
        List.append_assoc] at hjoin
      rw [← hjoin]
      exact .numbered (IPv6.parse?_eq_some_iff.mp ha) (readScope_eq_some_iff.mp hn)
    · cases h
  · intro h
    unfold readScoped
    cases h with
    | bare ha =>
      have hmark : '%' ∉ cs := ha.not_mem (by decide) (by decide) (by decide)
      rw [List.splitOn_eq_singleton hmark]
      simp [IPv6.parse?_eq_some_iff.mpr ha]
    | @numbered cs ds _ _ ha hds =>
      have hmark : '%' ∉ cs := ha.not_mem (by decide) (by decide) (by decide)
      have hdigits : '%' ∉ ds := not_mem_of_isDecimal hds (by decide)
      rw [List.splitOn_append_cons_self_of_not_mem hmark, List.splitOn_eq_singleton hdigits]
      simp [IPv6.parse?_eq_some_iff.mpr ha, readScope_eq_some_iff.mpr hds]

/-- Nothing but digits, colons, points and the mark of a scope is in such a text. -/
theorem not_mem_of_isScoped (h : IsScoped cs address scope) {c : Char} (hmark : IPv6.IsMark c)
    (hcolon : c ≠ ':') (hpoint : c ≠ '.') (hpercent : c ≠ '%') : c ∉ cs := by
  cases h with
  | bare ha => exact ha.not_mem hmark hcolon hpoint
  | numbered ha hds =>
    simp [ha.not_mem hmark hcolon hpoint, not_mem_of_isDecimal hds hmark.1, hpercent]

theorem takeWhile_bracket (hcs : ']' ∉ cs) (rest : List Char) :
    (cs ++ ']' :: rest).takeWhile (· ≠ ']') = cs := by
  rw [List.takeWhile_append_of_pos, List.takeWhile_cons_of_neg (by simp), List.append_nil]
  intro c hc
  rw [decide_eq_true_eq]
  rintro rfl
  exact hcs hc

theorem parse?_v4 {s : String} {a : IPv4} (hs : s.toList = a.chars ++ ':' :: ds)
    (hport : readPort ds = some port) : parse? s = some (.v4 a port) := by
  have hcolon : ':' ∉ a.chars := IPv6.not_mem_chars_of_isMark (by decide) (by decide)
  have hbracket : '[' ∉ a.chars := IPv6.not_mem_chars_of_isMark (by decide) (by decide)
  have hdigits : ':' ∉ ds := not_mem_of_isDecimal (readPort_eq_some_iff.mp hport) (by decide)
  have hread : IPv4.parse? a.chars = some a := IPv4.parse?_eq_some_iff.mpr rfl
  unfold parse?
  split
  · rename_i rest hrest
    obtain ⟨c, more, hmore, hc⟩ :=
      IPv6.exists_cons_of_not_mem (List.ne_nil_of_mem a.point_mem_chars) hbracket
    rw [hs, hmore] at hrest
    exact absurd (List.cons.inj hrest).1 hc
  · rw [hs, List.splitOn_append_cons_self_of_not_mem hcolon, List.splitOn_eq_singleton hdigits]
    simp only [hread, hport, Option.bind_eq_bind, Option.bind_some]

theorem parse?_v6 {s : String} (hs : s.toList = '[' :: (cs ++ ']' :: ':' :: ds))
    (hcs : IsScoped cs address scope) (hport : readPort ds = some port) :
    parse? s = some (.v6 address scope port) := by
  have hbracket : ']' ∉ cs :=
    not_mem_of_isScoped hcs (by decide) (by decide) (by decide) (by decide)
  have hinside := takeWhile_bracket hbracket (':' :: ds)
  have hread := readScoped_eq_some_iff.mpr hcs
  unfold parse?
  simp only [hs, hinside, List.drop_left, hread, hport, Option.bind_eq_bind, Option.bind_some]

/-- A socket address is read from a host, a colon and a port, and from no other text. -/
theorem parse?_eq_some_iff {s : String} : parse? s = some a ↔
    ∃ (h : HostAddress) (cs ds : List Char) (port : UInt16), s.toList = cs ++ ':' :: ds ∧
      h.IsWritten cs ∧ IsDecimal ds port.toNat ∧ a = h.withPort port := by
  constructor
  · intro h
    unfold parse? at h
    split at h
    · rename_i cs hs
      dsimp only at h
      split at h
      · rename_i port hrest
        obtain ⟨⟨address, scope⟩, hinside, h⟩ := Option.bind_eq_some_iff.mp h
        obtain ⟨n, hport, ha⟩ := Option.bind_eq_some_iff.mp h
        cases ha
        have hcs := List.prefix_iff_eq_append.mp (List.takeWhile_prefix (l := cs) (· ≠ ']'))
        rw [hrest] at hcs
        generalize cs.takeWhile (· ≠ ']') = inside at hinside hcs
        refine ⟨.v6 address scope, _, port, n, ?_, .v6 (readScoped_eq_some_iff.mp hinside),
          readPort_eq_some_iff.mp hport, rfl⟩
        rw [hs, ← hcs]
        simp
      · cases h
    · split at h
      · rename_i address port hsplit
        obtain ⟨a, ha, h⟩ := Option.bind_eq_some_iff.mp h
        obtain ⟨n, hport, haddress⟩ := Option.bind_eq_some_iff.mp h
        cases haddress
        have hjoin : [':'].intercalate (s.toList.splitOn ':') = s.toList :=
          List.intercalate_splitOn ':'
        rw [hsplit, List.intercalate_cons_cons, List.intercalate_singleton, List.append_assoc,
          IPv4.parse?_eq_some_iff.mp ha] at hjoin
        exact ⟨.v4 a, a.chars, port, n, hjoin.symm, .v4 a, readPort_eq_some_iff.mp hport, rfl⟩
      · cases h
  · rintro ⟨h, cs, ds, port, hs, hcs, hds, rfl⟩
    have hport := readPort_eq_some_iff.mpr hds
    cases hcs with
    | v4 a => exact parse?_v4 hs hport
    | v6 hcs =>
      apply parse?_v6 _ hcs hport
      rw [hs]
      simp

/-- The canonical text of an address has a host of that address in front of its port. -/
theorem exists_host (a : SocketAddress) : ∃ (h : HostAddress) (cs : List Char), h.IsWritten cs ∧
    a.chars = cs ++ ':' :: Nat.toDigits 10 a.port.toNat ∧ a = h.withPort a.port := by
  cases a with
  | v4 address port => exact ⟨.v4 address, address.chars, .v4 address, rfl, rfl⟩
  | v6 address scope port =>
    have haddress := address.spells_chars
    have hscoped : IsScoped (address.chars ++
        if scope = 0 then [] else '%' :: Nat.toDigits 10 scope.toNat) address scope := by
      split_ifs with hzero
      · subst hzero
        rw [List.append_nil]
        exact .bare haddress
      · exact .numbered haddress (isDecimal_toDigits scope.toNat)
    refine ⟨.v6 address scope, _, .v6 hscoped, ?_, rfl⟩
    simp [chars, SocketAddress.port]

theorem parse?_text (a : SocketAddress) : parse? a.text = some a := by
  obtain ⟨h, cs, hcs, htext, ha⟩ := a.exists_host
  apply parse?_eq_some_iff.mpr
  refine ⟨h, cs, _, a.port, ?_, hcs, isDecimal_toDigits a.port.toNat, ha⟩
  rw [text, String.toList_ofList, htext]

end SocketAddress

namespace ServerSettings

open HostAddress SocketAddress

variable {cs cs' ds ds' : List Char}

theorem eq_of_lastColon (h : cs ++ ':' :: ds = cs' ++ ':' :: ds') (hds : ':' ∉ ds)
    (hds' : ':' ∉ ds') : cs = cs' ∧ ds = ds' := by
  have hsplit := congrArg (List.splitOn ':') h
  rw [List.splitOn_append_cons_self, List.splitOn_append_cons_self, List.splitOn_eq_singleton hds,
    List.splitOn_eq_singleton hds'] at hsplit
  obtain ⟨hcs, hone⟩ := List.append_inj' hsplit rfl
  refine ⟨?_, List.singleton_inj.mp hone⟩
  calc
    cs = [':'].intercalate (cs.splitOn ':') := (List.intercalate_splitOn ':').symm
    _ = [':'].intercalate (cs'.splitOn ':') := by rw [hcs]
    _ = cs' := List.intercalate_splitOn ':'

theorem listenAddress_eq_ok_iff (s : ServerSettings) {a : SocketAddress} :
    s.listenAddress = .ok a ↔
      ∃ h : HostAddress, h.IsWritten s.host.toList ∧ a = h.withPort s.port := by
  have hport := isDecimal_toDigits s.port.toNat
  have htext : (s.host ++ ":" ++ numeral s.port.toNat).toList =
      s.host.toList ++ ':' :: Nat.toDigits 10 s.port.toNat := by
    simp [numeral]
  have hread : s.listenAddress = .ok a ↔
      SocketAddress.parse? (s.host ++ ":" ++ numeral s.port.toNat) = some a := by
    unfold listenAddress
    cases SocketAddress.parse? (s.host ++ ":" ++ numeral s.port.toNat) <;> simp
  rw [hread, parse?_eq_some_iff, htext]
  constructor
  · rintro ⟨h, cs, ds, port, heq, hcs, hds, rfl⟩
    obtain ⟨hhost, hdigits⟩ := eq_of_lastColon heq (not_mem_of_isDecimal hport (by decide))
      (not_mem_of_isDecimal hds (by decide))
    rw [hdigits] at hport
    obtain rfl : port = s.port := UInt16.toNat_inj.mp (hds.value.symm.trans hport.value)
    exact ⟨h, hhost ▸ hcs, rfl⟩
  · rintro ⟨h, hcs, rfl⟩
    exact ⟨h, _, _, s.port, rfl, hcs, hport, rfl⟩

theorem listenAddress_eq_error {s : ServerSettings}
    (h : ¬ ∃ h : HostAddress, h.IsWritten s.host.toList) :
    s.listenAddress = .error addressError := by
  unfold listenAddress
  split
  · rename_i a ha
    have hok : s.listenAddress = .ok a := by
      unfold listenAddress
      rw [ha]
    obtain ⟨host, hhost, -⟩ := s.listenAddress_eq_ok_iff.mp hok
    exact absurd ⟨host, hhost⟩ h
  · rfl

theorem not_isWritten_of_isScoped {address : IPv6} {scope : UInt32}
    (hcs : IsScoped cs address scope) : ¬ ∃ h : HostAddress, h.IsWritten cs := by
  have hcolon : ':' ∈ cs := by
    cases hcs with
    | bare ha => exact ha.colon_mem
    | numbered ha _ => exact List.mem_append_left _ ha.colon_mem
  have hbracket : '[' ∉ cs :=
    not_mem_of_isScoped hcs (by decide) (by decide) (by decide) (by decide)
  rintro ⟨h, hwritten⟩
  cases hwritten with
  | v4 a => exact IPv6.not_mem_chars_of_isMark (by decide) (by decide) hcolon
  | v6 _ => exact hbracket List.mem_cons_self

/-- A server listens at the address that its host alone names and at the port that it is given; no
text of a host has a port in it. Any other host is refused, an IPv6 address without brackets among
them, and every address is read back from its canonical text. -/
theorem listens_at_written_host (s : ServerSettings) :
    (∀ a, s.listenAddress = .ok a ↔
      ∃ h : HostAddress, h.IsWritten s.host.toList ∧ a = h.withPort s.port) ∧
    ((¬ ∃ h : HostAddress, h.IsWritten s.host.toList) → s.listenAddress = .error addressError) ∧
    (∀ address scope, IsScoped s.host.toList address scope →
      s.listenAddress = .error addressError) ∧
    addressError.kind = .config ∧
    ∀ a, s.listenAddress = .ok a → a.port = s.port ∧ SocketAddress.parse? a.text = some a := by
  refine ⟨fun a => s.listenAddress_eq_ok_iff, listenAddress_eq_error, ?_, rfl, ?_⟩
  · intro address scope hscoped
    exact listenAddress_eq_error (not_isWritten_of_isScoped hscoped)
  · intro a ha
    obtain ⟨h, -, rfl⟩ := s.listenAddress_eq_ok_iff.mp ha
    refine ⟨?_, SocketAddress.parse?_text _⟩
    cases h <;> rfl

/-- Leading zeros and the longest run of zero groups are left out. -/
example : (listenAddress ⟨"[FE80:0:0:1:0:0:0:0a%007]", 80, 50, 256⟩).map SocketAddress.text =
    .ok "[fe80:0:0:1::a%7]:80" := by decide +kernel

end ServerSettings
end SensorRelay
