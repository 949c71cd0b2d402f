import SensorRelay.Instant.Basic
import SensorRelay.Proofs.Auth.Token

/-!
# Presenting a token

A token that was issued is plain text, so a header can carry it, alone or behind its scheme and
between spaces. Every issuer with the same key finds the principal it was issued to.
-/

namespace SensorRelay

open Text

namespace Text

variable {front back cs : List Char} {c : Char}

theorem dropWhile_isBlank (h : ∀ c ∈ cs.head?, isBlank c = false) : cs.dropWhile isBlank = cs := by
  cases cs with
  | nil => rfl
  | cons c cs => exact List.dropWhile_cons_of_neg (by simp [h c rfl])

/-- Only the blanks around a text are cut off, whatever stands inside it. -/
theorem trim_ofList (hfront : ∀ c ∈ front, isBlank c = true) (hback : ∀ c ∈ back, isBlank c = true)
    (hhead : ∀ c ∈ cs.head?, isBlank c = false) (hlast : ∀ c ∈ cs.getLast?, isBlank c = false) :
    trim (String.ofList (front ++ cs ++ back)) = String.ofList cs := by
  have hleft : (front ++ cs ++ back).dropWhile isBlank = (cs ++ back).dropWhile isBlank := by
    rw [List.append_assoc, List.dropWhile_append_of_pos hfront]
  rw [trim, String.toList_ofList, hleft]
  cases cs with
  | nil =>
    rw [List.nil_append, ← List.append_nil back, List.dropWhile_append_of_pos hback]
    rfl
  | cons c cs =>
    rw [List.cons_append, List.dropWhile_cons_of_neg (by simp [hhead c rfl]), ← List.cons_append,
      List.reverse_append,
      List.dropWhile_append_of_pos fun d hd => hback d (List.mem_reverse.mp hd),
      dropWhile_isBlank (by rwa [List.head?_reverse]), List.reverse_reverse]

variable {bytes : List UInt8} {b : UInt8}

theorem isGlyph_of_toLower (h : IsGlyph c.toLower) : IsGlyph c := by
  revert h
  refine forall_char (P := fun c => IsGlyph c.toLower → IsGlyph c) (by decide) ?_ c
  intro c _ hlower h
  rwa [hlower] at h

theorem isGlyph_of_lower {ds : List Char} (h : lower cs = ds) (hds : ∀ d ∈ ds, IsGlyph d) :
    ∀ c ∈ cs, IsGlyph c := by
  intro c hc
  refine isGlyph_of_toLower (hds c.toLower ?_)
  rw [← h]
  exact List.mem_map_of_mem hc

theorem hexOfBytes_cons (b : UInt8) (bytes : List UInt8) : (hexOfBytes (b :: bytes)).toList =
    hexDigit (b.toNat / 16) :: hexDigit (b.toNat % 16) :: (hexOfBytes bytes).toList := by
  have hb : b.toNat / 16 % 16 = b.toNat / 16 :=
    Nat.mod_eq_of_lt (by have := b.toNat_lt; omega)
  simp [hexOfBytes, hexDigits, hb]

theorem isGlyph_hexOfBytes (bytes : List UInt8) :
    ∀ c ∈ (hexOfBytes bytes).toList, IsGlyph c := by
  have hdigit : ∀ n < 16, IsGlyph (hexDigit n) := by decide
  induction bytes with
  | nil => simp [hexOfBytes]
  | cons b bytes ih =>
    have hb := b.toNat_lt
    rw [hexOfBytes_cons]
    simp only [List.mem_cons]
    rintro c (rfl | rfl | hc)
    · exact hdigit _ (by omega)
    · exact hdigit _ (by omega)
    · exact ih c hc

theorem length_hexOfBytes (bytes : List UInt8) :
    (hexOfBytes bytes).toList.length = 2 * bytes.length := by
  induction bytes with
  | nil => rfl
  | cons b bytes ih =>
    rw [hexOfBytes_cons, List.length_cons, List.length_cons, ih, List.length_cons]
    omega

/-- A text is the digits of a byte string in either case. -/
def SpellsBytes (cs : List Char) (bytes : List UInt8) : Prop :=
  lower cs = (hexOfBytes bytes).toList

namespace SpellsBytes

theorem isGlyph (h : SpellsBytes cs bytes) : ∀ c ∈ cs, IsGlyph c :=
  isGlyph_of_lower h (isGlyph_hexOfBytes bytes)

theorem exists_digits (h : SpellsBytes cs (b :: bytes)) : ∃ high low rest,
    cs = high :: low :: rest ∧ hexValue? high = some (b.toNat / 16) ∧
      hexValue? low = some (b.toNat % 16) ∧ SpellsBytes rest bytes := by
  rw [SpellsBytes, hexOfBytes_cons] at h
  obtain ⟨high, more, rfl, hhigh, h⟩ := List.map_eq_cons_iff.mp h
  obtain ⟨low, rest, rfl, hlow, h⟩ := List.map_eq_cons_iff.mp h
  have hb := b.toNat_lt
  exact ⟨high, low, rest, rfl, hexValue?_eq_some_iff.mpr ⟨by omega, hhigh⟩,
    hexValue?_eq_some_iff.mpr ⟨by omega, hlow⟩, h⟩

theorem bytesOfPairs_encoded (h : SpellsBytes cs bytes) (position : Nat) :
    bytesOfPairs position (encoded cs) = .ok bytes := by
  induction bytes generalizing cs position with
  | nil =>
    obtain rfl := List.map_eq_nil_iff.mp h
    rfl
  | cons b bytes ih =>
    obtain ⟨high, low, rest, rfl, hhigh, hlow, hrest⟩ := h.exists_digits
    have hvisible := h.isGlyph
    simp only [List.forall_mem_cons] at hvisible
    obtain ⟨hascii, hascii', -⟩ := hvisible
    have hb : 16 * (b.toNat / 16) + b.toNat % 16 = b.toNat := Nat.div_add_mod _ _
    rw [encoded_cons, encoded_cons, utf8EncodeChar_of_isAscii hascii.isAscii,
      utf8EncodeChar_of_isAscii hascii'.isAscii]
    simp only [List.singleton_append, bytesOfPairs, ofNat_asciiByte hascii.isAscii,
      ofNat_asciiByte hascii'.isAscii, hhigh, hlow, ih hrest, hb, UInt8.ofNat_toNat, Except.map]

/-- Digits in either case are read. -/
theorem bytesOfHex_encoded (h : SpellsBytes cs bytes) : bytesOfHex (encoded cs) = .ok bytes := by
  have hlen : (encoded cs).length = 2 * bytes.length := by
    rw [encoded_of_isAscii fun c hc => (h.isGlyph c hc).isAscii, List.length_map,
      ← length_lower, h, length_hexOfBytes]
  rw [bytesOfHex, if_neg (by omega), h.bytesOfPairs_encoded]

end SpellsBytes
end Text

namespace Auth.Issuer

variable {i : Issuer} {p : Principal} {key : List UInt8} {cs token header : List Char}

/-- A configured secret that is a key: its digits with blanks around them. -/
def SpellsKey (secret : String) (key : List UInt8) : Prop :=
  ∃ front digits back, secret.toList = front ++ digits ++ back ∧
    (∀ c ∈ front, isBlank c = true) ∧ (∀ c ∈ back, isBlank c = true) ∧ SpellsBytes digits key

theorem trim_of_spellsKey {secret : String} (h : SpellsKey secret key) :
    ∃ digits, trim secret = String.ofList digits ∧ SpellsBytes digits key := by
  obtain ⟨front, digits, back, hsecret, hfront, hback, hdigits⟩ := h
  refine ⟨digits, ?_, hdigits⟩
  rw [← String.ofList_toList (s := secret), hsecret]
  refine trim_ofList hfront hback ?_ ?_
  · intro c hc
    exact (hdigits.isGlyph c (List.mem_of_mem_head? hc)).isBlank_eq_false
  · intro c hc
    exact (hdigits.isGlyph c (List.mem_of_mem_getLast? hc)).isBlank_eq_false

/-- Of a secret that is a key, only the empty one is refused. -/
theorem ofSecret_of_spellsKey {secret : String} (h : SpellsKey secret key)
    (randomKey : List UInt8) : ofSecret (some secret) randomKey =
      if key = [] then .error .empty else .ok ⟨key⟩ := by
  obtain ⟨digits, htrim, hdigits⟩ := trim_of_spellsKey h
  unfold ofSecret
  simp only [htrim, utf8_ofList, hdigits.bytesOfHex_encoded]
  cases key <;> rfl

/-- The issuers that are made from a key. -/
inductive BuiltFrom (key : List UInt8) : Issuer → Prop
  | bytes : BuiltFrom key ⟨key⟩
  | secret {secret : String} {randomKey : List UInt8} {i : Issuer} (spelled : SpellsKey secret key)
      (built : ofSecret (some secret) randomKey = .ok i) : BuiltFrom key i

theorem BuiltFrom.eq (h : BuiltFrom key i) : i = ⟨key⟩ := by
  cases h with
  | bytes => rfl
  | secret spelled built =>
    rw [ofSecret_of_spellsKey spelled] at built
    split_ifs at built
    exact (Except.ok.inj built).symm

/-- Nothing, or the scheme `bearer` in any case and spaces behind it. -/
inductive Scheme : List Char → Prop
  | absent : Scheme []
  | bearer {word spaces : List Char} (word_eq : lower word = "bearer".toList)
      (nonempty : spaces ≠ []) (blank : ∀ c ∈ spaces, c = ' ') : Scheme (word ++ spaces)

/-- A header text that is a token, alone or behind its scheme, with spaces and tabs around it. -/
def Presents (header token : List Char) : Prop :=
  ∃ front scheme back, header = front ++ (scheme ++ token) ++ back ∧ Scheme scheme ∧
    (∀ c ∈ front, c = ' ' ∨ c = '\t') ∧ ∀ c ∈ back, c = ' ' ∨ c = '\t'

theorem isBlank_of_space {c : Char} (h : c = ' ' ∨ c = '\t') : isBlank c = true := by
  rcases h with rfl | rfl <;> rfl

theorem isGlyph_of_word {word : List Char} (h : lower word = "bearer".toList) :
    ∀ c ∈ word, IsGlyph c := by
  have hall : "bearer".toList.all (fun c => decide (IsGlyph c)) = true := by decide
  refine isGlyph_of_lower h fun c hc => ?_
  exact of_decide_eq_true (List.all_eq_true.mp hall c hc)

theorem ne_space_of_isGlyph (h : ∀ c ∈ cs, IsGlyph c) :
    ∀ c ∈ cs, decide (c ≠ ' ') = true := by
  intro c hc
  rw [decide_eq_true_eq]
  rintro rfl
  exact absurd (h ' ' hc) (by decide)

/-- A token that is presented begins and ends the text between the blanks around it. -/
theorem trim_of_presents {scheme front back : List Char} (hscheme : Scheme scheme)
    (hfront : ∀ c ∈ front, c = ' ' ∨ c = '\t') (hback : ∀ c ∈ back, c = ' ' ∨ c = '\t')
    (htoken : token ≠ []) (hvisible : ∀ c ∈ token, IsGlyph c) :
    trim (String.ofList (front ++ (scheme ++ token) ++ back)) =
      String.ofList (scheme ++ token) := by
  refine trim_ofList (fun c hc => isBlank_of_space (hfront c hc))
    (fun c hc => isBlank_of_space (hback c hc)) ?_ ?_
  · intro c hc
    cases hscheme with
    | absent => exact (hvisible c (List.mem_of_mem_head? hc)).isBlank_eq_false
    | @bearer word spaces hword =>
      obtain ⟨d, more, rfl, -⟩ := List.map_eq_cons_iff.mp hword
      obtain rfl := Option.some.inj hc
      exact (isGlyph_of_word hword d List.mem_cons_self).isBlank_eq_false
  · intro c hc
    rw [List.getLast?_append, List.getLast?_eq_some_getLast htoken, Option.some_or] at hc
    obtain rfl := Option.some.inj hc
    exact (hvisible _ (List.getLast_mem htoken)).isBlank_eq_false

/-- The token is found in every header text that presents it. -/
theorem bearer_of_presents (h : Presents header token) (htoken : token ≠ [])
    (hvisible : ∀ c ∈ token, IsGlyph c) :
    bearer (String.ofList header) = String.ofList token := by
  obtain ⟨front, scheme, back, rfl, hscheme, hfront, hback⟩ := h
  unfold bearer
  rw [trim_of_presents hscheme hfront hback htoken hvisible, String.toList_ofList]
  cases hscheme with
  | absent =>
    have hword : token.takeWhile (· ≠ ' ') = token :=
      List.takeWhile_eq_self_iff.mpr (ne_space_of_isGlyph hvisible)
    simp only [List.nil_append, hword, Nat.lt_irrefl, false_and, if_false]
  | @bearer word spaces hword hne hspaces =>
    obtain ⟨space, more, rfl⟩ := List.exists_cons_of_ne_nil hne
    obtain rfl := hspaces space List.mem_cons_self
    have htake : (word ++ ' ' :: more ++ token).takeWhile (· ≠ ' ') = word := by
      rw [List.append_assoc,
        List.takeWhile_append_of_pos (ne_space_of_isGlyph (isGlyph_of_word hword))]
      simp
    have hdrop : (word ++ ' ' :: more ++ token).drop (word.length + 1) = more ++ token := by
      simp
    have hlt : word.length < (word ++ ' ' :: more ++ token).length := by
      simp
    have hmore : ∀ c ∈ more, c = ' ' ∨ c = '\t' :=
      fun c hc => .inl (hspaces c (List.mem_cons_of_mem _ hc))
    have hrest : trim (String.ofList (more ++ token)) = String.ofList token := by
      simpa using trim_of_presents .absent hmore (List.forall_mem_nil _) htoken hvisible
    simp only [htake, hdrop]
    rw [if_pos ⟨hlt, hword⟩, hrest]

/-- What may stand in a plain header text. -/
def IsPlain (c : Char) : Prop :=
  IsGlyph c ∨ c = ' ' ∨ c = '\t'

theorem isPlain_of_presents (h : Presents header token) (hvisible : ∀ c ∈ token, IsGlyph c) :
    ∀ c ∈ header, IsPlain c := by
  obtain ⟨front, scheme, back, rfl, hscheme, hfront, hback⟩ := h
  intro c hc
  simp only [List.mem_append] at hc
  rcases hc with (hc | hc | hc) | hc
  · exact .inr (hfront c hc)
  · cases hscheme with
    | absent => cases hc
    | bearer hword _ hspaces =>
      rcases List.mem_append.mp hc with hc | hc
      · exact .inl (isGlyph_of_word hword c hc)
      · exact .inr (.inl (hspaces c hc))
  · exact .inl (hvisible c hc)
  · exact .inr (hback c hc)

theorem IsPlain.isAscii {c : Char} (h : IsPlain c) : IsAscii c := by
  rcases h with h | rfl | rfl
  · exact h.isAscii
  · decide
  · decide

theorem IsPlain.isTextByte {c : Char} (h : IsPlain c) : isTextByte (asciiByte c) = true := by
  rcases h with h | rfl | rfl
  · have hbyte := toNat_asciiByte h.isAscii
    unfold IsGlyph at h
    simp only [Auth.isTextByte, Bool.or_eq_true, Bool.and_eq_true, decide_eq_true_eq,
      UInt8.le_iff_toNat_le, UInt8.lt_iff_toNat_lt, hbyte]
    refine .inr ⟨Nat.le_of_lt h.1, h.2⟩
  · rfl
  · rfl

theorem isHeaderByte_of_isTextByte {b : UInt8} (h : isTextByte b = true) :
    isHeaderByte b = true := by
  simp only [isTextByte, isHeaderByte, Bool.or_eq_true, Bool.and_eq_true, decide_eq_true_eq,
    bne_iff_ne] at h ⊢
  refine h.imp_right fun h => ⟨h.1, ?_⟩
  rintro rfl
  exact absurd h.2 (by decide)

/-- Plain text can be carried by a header, and is read from it. -/
theorem exists_headerValue (h : ∀ c ∈ cs, IsPlain c) :
    ∃ v, HeaderValue.ofBytes? (encoded cs) = some v ∧ v.text? = some (String.ofList cs) := by
  have hascii : ∀ c ∈ cs, IsAscii c := fun c hc => (h c hc).isAscii
  have htext : (encoded cs).all isTextByte = true := by
    rw [encoded_of_isAscii hascii, List.all_map, List.all_eq_true]
    exact fun c hc => (h c hc).isTextByte
  have hheader : (encoded cs).all isHeaderByte = true := by
    rw [List.all_eq_true] at htext ⊢
    exact fun b hb => isHeaderByte_of_isTextByte (htext b hb)
  refine ⟨⟨encoded cs, hheader⟩, dif_pos hheader, ?_⟩
  rw [HeaderValue.text?, if_pos htext, map_ofNat_encoded hascii]

theorem isGlyph_issue (i : Issuer) (p : Principal) (now : Int) :
    ∀ c ∈ (i.issue p now).text.toList, IsGlyph c := by
  have hdot : IsGlyph '.' := by decide
  intro c hc
  rw [issue_eq_dotted, dotted, String.toList_ofList] at hc
  simp only [List.mem_append, List.mem_cons] at hc
  rcases hc with (hc | rfl | hc) | rfl | hc
  exacts [Base64Url.isGlyph_encode _ c hc, hdot, Base64Url.isGlyph_encode _ c hc, hdot,
    Base64Url.isGlyph_encode _ c hc]

theorem issue_ne_nil (i : Issuer) (p : Principal) (now : Int) :
    (i.issue p now).text.toList ≠ [] := by
  rw [issue_eq_dotted, dotted, String.toList_ofList]
  simp

theorem seconds_mem (t : Instant) :
    Int64.minValue.toInt ≤ t.seconds ∧ t.seconds ≤ Int64.maxValue.toInt := by
  have hmin : Int64.minValue.toInt = -9223372036854775808 := rfl
  have hmax : Int64.maxValue.toInt = 9223372036854775807 := rfl
  have hday := t.day_mem
  have hsecond := t.second_lt
  unfold Instant.firstDay Instant.lastDay at hday
  unfold Instant.seconds
  omega

theorem authenticate_of_presents (i : Issuer) (p : Principal) (t : Instant)
    (h : Presents header (i.issue p t.seconds).text.toList) :
    ∃ v, HeaderValue.ofBytes? (utf8 (String.ofList header)) = some v ∧
      i.authenticate (some v) = .ok (some p) := by
  have hvisible := isGlyph_issue i p t.seconds
  obtain ⟨v, hv, htext⟩ := exists_headerValue (isPlain_of_presents h hvisible)
  refine ⟨v, by rwa [utf8_ofList], ?_⟩
  have hbearer := bearer_of_presents h (issue_ne_nil i p t.seconds) hvisible
  rw [String.ofList_toList] at hbearer
  simp only [authenticate, htext, Option.bind_some, hbearer, principalOf?_issue i p (seconds_mem t)]

theorem identify_eq_ok_iff {v : Option HeaderValue} :
    i.identify v = .ok p ↔ i.authenticate v = .ok (some p) := by
  unfold identify
  cases i.authenticate v with
  | error s => simp
  | ok q => cases q <;> simp

/-- A header that carries nothing but a token. -/
def presented (i : Issuer) (p : Principal) (t : Instant) : Option HeaderValue :=
  HeaderValue.ofBytes? (utf8 (i.issue p t.seconds).text)

theorem identify_presented (i : Issuer) (p : Principal) (t : Instant) :
    i.identify (i.presented p t) = .ok p := by
  have hbare : Presents (i.issue p t.seconds).text.toList (i.issue p t.seconds).text.toList :=
    ⟨[], [], [], by simp, .absent, by simp, by simp⟩
  obtain ⟨v, hv, hauth⟩ := authenticate_of_presents i p t hbare
  rw [String.ofList_toList] at hv
  rw [presented, hv, identify_eq_ok_iff]
  exact hauth

/-- The header that carries an issued token names the principal it was issued to. -/
theorem exists_attach_issue (i : Issuer) (p : Principal) (t : Instant) :
    ∃ v, (i.issue p t.seconds).attach = .ok v ∧ i.authenticate (some v) = .ok (some p) := by
  have hauth := identify_eq_ok_iff.mp (i.identify_presented p t)
  cases hv : i.presented p t with
  | none =>
    rw [hv] at hauth
    cases hauth
  | some v =>
    rw [hv] at hauth
    rw [presented] at hv
    exact ⟨v, by rw [Token.attach, hv], hauth⟩

/-- An issued token can be carried by a header, and wherever it is presented, every issuer with the
same key finds the principal it was issued to. -/
theorem issued_token_is_presented (key : List UInt8) (p : Principal) (t : Instant) :
    let token := (Issuer.mk key).issue p t.seconds
    (∃ v, token.attach = .ok v ∧ v.text? = some token.text) ∧
    (∀ secret randomKey, SpellsKey secret key → key ≠ [] →
      ofSecret (some secret) randomKey = .ok ⟨key⟩) ∧
    ∀ i, BuiltFrom key i → ∀ header, Presents header token.text.toList →
      ∃ v, HeaderValue.ofBytes? (utf8 (String.ofList header)) = some v ∧
        i.authenticate (some v) = .ok (some p) ∧ i.identify (some v) = .ok p := by
  intro token
  refine ⟨?_, ?_, ?_⟩
  · obtain ⟨v, hv, htext⟩ :=
      exists_headerValue fun c hc => .inl (isGlyph_issue ⟨key⟩ p t.seconds c hc)
    refine ⟨v, ?_, by rwa [String.ofList_toList] at htext⟩
    rw [Token.attach, utf8_eq_encoded, hv]
  · intro secret randomKey h hkey
    rw [ofSecret_of_spellsKey h, if_neg hkey]
  · intro i hi header h
    obtain rfl := hi.eq
    obtain ⟨v, hv, hauth⟩ := authenticate_of_presents ⟨key⟩ p t h
    exact ⟨v, hv, hauth, identify_eq_ok_iff.mpr hauth⟩

/-- A login of characters that are escaped or of more than one byte, a secret in mixed case between
blanks, and a header with everything around the token that may be there. -/
theorem issued_token_is_presented_behind_scheme :
    let key := [0, 255, 16, 171]
    let p : Principal := .client "\"\\\n\x00é😀"
    let token := (Issuer.mk key).issue p 0
    let header := "\t BeArEr   ".toList ++ token.text.toList ++ " \t".toList
    (SpellsKey " \t00Ff10aB\n" key ∧ key ≠ [] ∧
      ofSecret (some " \t00Ff10aB\n") [] = .ok ⟨key⟩) ∧
    BuiltFrom key ⟨key⟩ ∧ Presents header token.text.toList ∧
    ∃ v, HeaderValue.ofBytes? (utf8 (String.ofList header)) = some v ∧
      Issuer.authenticate ⟨key⟩ (some v) = .ok (some p) ∧
      Issuer.identify ⟨key⟩ (some v) = .ok p := by
  intro key p token header
  have hblank : [' ', '\t'].all isBlank = true := by decide
  have hbreak : ['\n'].all isBlank = true := by decide
  have hspells : SpellsKey " \t00Ff10aB\n" key := by
    refine ⟨_, "00Ff10aB".toList, _, rfl, List.all_eq_true.mp hblank,
      List.all_eq_true.mp hbreak, ?_⟩
    unfold SpellsBytes
    decide
  have hscheme : Scheme ("BeArEr".toList ++ [' ', ' ', ' ']) :=
    .bearer (by decide) (by simp) (by simp)
  have hpresents : Presents header token.text.toList := by
    refine ⟨['\t', ' '], _, [' ', '\t'], ?_, hscheme, by simp, by simp⟩
    rw [← List.append_assoc, ← List.append_assoc]
    rfl
  obtain ⟨-, hsecret, hrequest⟩ :=
    issued_token_is_presented key p ⟨0, 0, 0, by decide, by decide, by decide⟩
  have hbuilt := hsecret _ [] hspells (by decide)
  exact ⟨⟨hspells, by decide, hbuilt⟩, .secret hspells hbuilt, hpresents,
    hrequest _ (.secret hspells hbuilt) _ hpresents⟩

end Auth.Issuer
end SensorRelay
