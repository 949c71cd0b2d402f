import SensorRelay.Auth.Issuer
import SensorRelay.Proofs.Auth.Claims
import Mathlib.Data.List.TakeWhile

/-!
# Accepted tokens

A text is accepted exactly when it is a header, claims and the signature of both. Digits hold no
dot, so the three parts of an accepted text are fixed by it, and so is the one signature that goes
with a header and claims.
-/

namespace SensorRelay

open Text Crypto

namespace Text.Base64Url

variable {c : Char} {n : Nat} {cs : List Char} {bytes : List UInt8}

theorem isGlyph_of_value? (h : value? c = some n) : IsGlyph c ∧ c ≠ '.' := by
  refine ⟨?_, ?_⟩
  · unfold IsGlyph
    simp only [value?] at h
    split_ifs at h with _ _ _ hminus hlow
    · omega
    · omega
    · omega
    · rw [hminus]
      decide
    · rw [hlow]
      decide
  · rintro rfl
    cases h

/-- Only digits are read. -/
theorem exists_value?_of_decode (h : decode cs = some bytes) :
    ∀ c ∈ cs, ∃ n, value? c = some n := by
  fun_induction decode cs generalizing bytes with
  | case1 w x y z rest ih =>
    simp only [Option.bind_eq_bind, Option.bind_eq_some_iff] at h
    obtain ⟨a, ha, b, hb, d, hd, e, he, more, hmore, -⟩ := h
    have hrest := ih hmore
    simp only [List.mem_cons]
    rintro c (rfl | rfl | rfl | rfl | hc)
    exacts [⟨a, ha⟩, ⟨b, hb⟩, ⟨d, hd⟩, ⟨e, he⟩, hrest c hc]
  | case2 w x y =>
    simp only [Option.bind_eq_bind, Option.bind_eq_some_iff] at h
    obtain ⟨a, ha, b, hb, d, hd, -⟩ := h
    simp only [List.mem_cons, List.not_mem_nil, or_false]
    rintro c (rfl | rfl | rfl)
    exacts [⟨a, ha⟩, ⟨b, hb⟩, ⟨d, hd⟩]
  | case3 w x =>
    simp only [Option.bind_eq_bind, Option.bind_eq_some_iff] at h
    obtain ⟨a, ha, b, hb, -⟩ := h
    simp only [List.mem_cons, List.not_mem_nil, or_false]
    rintro c (rfl | rfl)
    exacts [⟨a, ha⟩, ⟨b, hb⟩]
  | case4 => cases h
  | case5 => simp

theorem isGlyph_of_decode (h : decode cs = some bytes) : ∀ c ∈ cs, IsGlyph c := by
  intro c hc
  obtain ⟨n, hn⟩ := exists_value?_of_decode h c hc
  exact (isGlyph_of_value? hn).1

theorem dot_not_mem_of_decode (h : decode cs = some bytes) : '.' ∉ cs := by
  intro hc
  obtain ⟨n, hn⟩ := exists_value?_of_decode h '.' hc
  exact (isGlyph_of_value? hn).2 rfl

theorem isGlyph_encode (bytes : List UInt8) : ∀ c ∈ encode bytes, IsGlyph c :=
  isGlyph_of_decode (decode_encode bytes)

theorem dot_not_mem_encode (bytes : List UInt8) : '.' ∉ encode bytes :=
  dot_not_mem_of_decode (decode_encode bytes)

end Text.Base64Url

namespace Auth.Issuer

variable {i : Issuer} {p q : Principal} {raw : String} {cs as bs : List Char}
  {header payload signature : List Char}

theorem ne_dot_of_mem_reverse (h : '.' ∉ bs) : ∀ c ∈ bs.reverse, decide (c ≠ '.') = true := by
  intro c hc
  rw [decide_eq_true_eq]
  rintro rfl
  exact h (List.mem_reverse.mp hc)

theorem cutLastDot_append (as : List Char) (h : '.' ∉ bs) :
    cutLastDot (as ++ '.' :: bs) = some (as, bs) := by
  have htail : (as ++ '.' :: bs).reverse.takeWhile (· ≠ '.') = bs.reverse := by
    rw [List.reverse_append, List.reverse_cons, List.append_assoc,
      List.takeWhile_append_of_pos (ne_dot_of_mem_reverse h)]
    simp
  have hlen : (as ++ '.' :: bs).length = as.length + (bs.length + 1) := by
    rw [List.length_append, List.length_cons]
  have hlt : bs.length < as.length + (bs.length + 1) := by omega
  have hcut : as.length + (bs.length + 1) - bs.length - 1 = as.length := by omega
  rw [cutLastDot, htail, List.reverse_reverse]
  simp only [hlen, if_pos hlt, hcut, List.take_left]

theorem cutLastDot_of_not_mem (h : '.' ∉ cs) : cutLastDot cs = none := by
  have htail : cs.reverse.takeWhile (· ≠ '.') = cs.reverse :=
    List.takeWhile_eq_self_iff.mpr (ne_dot_of_mem_reverse h)
  rw [cutLastDot, htail, List.reverse_reverse]
  exact if_neg (Nat.lt_irrefl _)

theorem cutLastDot_eq_some_iff :
    cutLastDot cs = some (as, bs) ↔ cs = as ++ '.' :: bs ∧ '.' ∉ bs := by
  constructor
  · intro h
    by_cases hdot : '.' ∈ cs
    · -- The last dot is the first one from behind.
      obtain ⟨back, front, hcs, hback⟩ := List.eq_append_cons_of_mem (List.mem_reverse.mpr hdot)
      have hcut : cs = front.reverse ++ '.' :: back.reverse := by
        have hreverse := congrArg List.reverse hcs
        rwa [List.reverse_reverse, List.reverse_append, List.reverse_cons, List.append_assoc,
          List.singleton_append] at hreverse
      have hback' : '.' ∉ back.reverse := fun hmem => hback (List.mem_reverse.mp hmem)
      rw [hcut, cutLastDot_append front.reverse hback', Option.some.injEq, Prod.mk.injEq] at h
      obtain ⟨rfl, rfl⟩ := h
      exact ⟨hcut, hback'⟩
    · rw [cutLastDot_of_not_mem hdot] at h
      cases h
  · rintro ⟨rfl, hbs⟩
    exact cutLastDot_append as hbs

theorem dot_not_mem_sign (i : Issuer) (message : List Char) : '.' ∉ i.sign message :=
  Base64Url.dot_not_mem_encode _

/-- Three parts with dots between them. -/
def dotted (header payload signature : List Char) : String :=
  String.ofList (header ++ '.' :: payload ++ '.' :: signature)

/-- A text is accepted exactly when its third part signs the other two and these say so. -/
theorem principalOf?_eq_some_iff : i.principalOf? raw = some p ↔
    ∃ header payload, raw = dotted header payload (i.sign (header ++ '.' :: payload)) ∧
      ((Base64Url.decode header).bind Json.read).bind headerAlgorithm? = some "HS256" ∧
      ((Base64Url.decode payload).bind Claims.read).bind Claims.principal? = some p := by
  constructor
  · intro h
    simp only [principalOf?, Option.bind_eq_bind, Option.bind_eq_some_iff, Prod.exists] at h
    obtain ⟨message, signature, hmessage, header, payload, hheader, bytes, hbytes, j, hj,
      algorithm, halgorithm, h⟩ := h
    split_ifs at h with hsigned
    obtain ⟨rfl, rfl⟩ := hsigned
    obtain ⟨rfl, -⟩ := cutLastDot_eq_some_iff.mp hheader
    refine ⟨header, payload, ?_, ?_, ?_⟩
    · rw [dotted, ← (cutLastDot_eq_some_iff.mp hmessage).1, String.ofList_toList]
    · simp only [hbytes, hj, halgorithm, Option.bind_some]
    · rw [Option.bind_assoc]
      simpa only [Option.bind_eq_some_iff] using h
  · rintro ⟨header, payload, rfl, halgorithm, hclaims⟩
    simp only [Option.bind_eq_some_iff] at halgorithm hclaims
    obtain ⟨j, ⟨bytes, hbytes, hj⟩, halgorithm⟩ := halgorithm
    obtain ⟨c, ⟨said, hsaid, hc⟩, hp⟩ := hclaims
    have hmessage := cutLastDot_append (header ++ '.' :: payload)
      (dot_not_mem_sign i (header ++ '.' :: payload))
    have hheader := cutLastDot_append header (Base64Url.dot_not_mem_of_decode hsaid)
    simp only [principalOf?, dotted, String.toList_ofList, Option.bind_eq_bind, hmessage,
      hheader, hbytes, hj, halgorithm, hsaid, hc, hp, Option.bind_some, and_self, if_true]

theorem validate_eq_ok_iff : i.validate raw = .ok p ↔ i.principalOf? raw = some p := by
  unfold validate
  cases i.principalOf? raw <;> simp

theorem validate_eq_error (h : ∀ p, i.validate raw ≠ .ok p) :
    i.validate raw = .error invalidToken := by
  cases hp : i.principalOf? raw with
  | some p => exact absurd (validate_eq_ok_iff.mpr hp) (h p)
  | none => rw [validate, hp]

/-- The value that a part is the writing of. -/
def said? (part : List Char) : Option Json :=
  (Base64Url.decode part).bind Json.read

def algorithm? (header : Json) : Option String :=
  (required "alg" (headerObject header)).bind choice?

def kind? (claims : Json) : Option String :=
  (required "kind" claims).bind choice?

def subject? (claims : Json) : Option String :=
  (required "sub" claims).bind Json.string?

theorem said?_part {j : Json} (h : j.Plain) : said? (part j) = some j := by
  rw [said?, part, Base64Url.decode_encode, Option.bind_some, Json.read_text h]

theorem algorithm?_of_headerAlgorithm? {j : Json} {algorithm : String}
    (h : headerAlgorithm? j = some algorithm) : algorithm? j = some algorithm := by
  simp only [headerAlgorithm?, Option.bind_eq_bind, Option.bind_eq_some_iff] at h
  obtain ⟨member, hmember, name, hname, h⟩ := h
  split_ifs at h
  obtain rfl := Option.some.inj h
  rw [algorithm?, hmember, Option.bind_some, hname]

theorem kindOfName?_eq_some_iff {name : String} {kind : PrincipalKind} :
    Claims.kindOfName? name = some kind ↔ name = kind.name := by
  constructor
  · intro h
    unfold Claims.kindOfName? at h
    split_ifs at h with hsensor hclient <;> obtain rfl := Option.some.inj h
    · exact hsensor
    · exact hclient
  · rintro rfl
    exact Claims.kindOfName?_name kind

/-- Only objects have members. -/
theorem exists_object_of_required {name : String} {j member : Json}
    (h : required name j = some member) : ∃ ms, j = .object ms := by
  cases j with
  | object ms => exact ⟨ms, rfl⟩
  | _ => cases h

/-- A subject of a kind names a principal: any text a client, any spelling of its id a sensor. -/
inductive Names : Principal → PrincipalKind → String → Prop
  | client (login : String) : Names (.client login) .client login
  | sensor {id : Uuid} {subject : String} {form : Uuid.Form}
      (spelled : lower subject.toList = id.spelled form) : Names (.sensor id) .sensor subject

theorem names_of_principal? {c : Claims} (h : c.principal? = some p) :
    Names p c.kind c.subject := by
  obtain ⟨subject, kind, issuedAt⟩ := c
  cases kind with
  | client =>
    obtain rfl := Option.some.inj h
    exact .client subject
  | sensor =>
    obtain ⟨id, hid, rfl⟩ := Option.map_eq_some_iff.mp h
    obtain ⟨form, hform⟩ := Uuid.parse?_eq_some_iff.mp hid
    exact .sensor hform

theorem said?_of_read {c : Claims}
    (h : (Base64Url.decode payload).bind Claims.read = some c) :
    ∃ ms, said? payload = some (.object ms) ∧ kind? (.object ms) = some c.kind.name ∧
      subject? (.object ms) = some c.subject := by
  obtain ⟨bytes, hbytes, hread⟩ := Option.bind_eq_some_iff.mp h
  obtain ⟨j, hj, hc⟩ := Option.bind_eq_some_iff.mp (Option.filter_eq_some_iff.mp hread).1
  simp only [Claims.ofJson?, Option.bind_eq_bind, Option.bind_eq_some_iff] at hc
  obtain ⟨sub, hsub, subject, hsubject, member, hmember, name, hname, kind, hkind, _, _, _, _,
    hc⟩ := hc
  obtain rfl := Option.some.inj hc
  obtain ⟨ms, rfl⟩ := exists_object_of_required hsub
  rw [kindOfName?_eq_some_iff] at hkind
  refine ⟨ms, ?_, ?_, ?_⟩
  · rw [said?, hbytes, Option.bind_some, hj]
  · rw [kind?, hmember, Option.bind_some, hname, hkind]
  · rw [subject?, hsub, Option.bind_some, hsubject]

/-- A text is its own header and claims and the signature of both, the header names the algorithm
of the signature, and the claims name the principal. -/
structure Attests (i : Issuer) (header payload : List Char) (raw : String) (p : Principal) :
    Prop where
  text_eq : raw = dotted header payload (Base64Url.encode
    (hmacSha256 i.key (utf8 (String.ofList (header ++ '.' :: payload)))))
  algorithm : (said? header).bind algorithm? = some "HS256"
  claims : ∃ ms kind subject, said? payload = some (.object ms) ∧
    kind? (.object ms) = some kind.name ∧ subject? (.object ms) = some subject ∧
    Names p kind subject

theorem exists_attests (h : i.validate raw = .ok p) :
    ∃ header payload, i.Attests header payload raw p := by
  obtain ⟨header, payload, hraw, hheader, hclaims⟩ :=
    principalOf?_eq_some_iff.mp (validate_eq_ok_iff.mp h)
  obtain ⟨j, hj, halgorithm⟩ := Option.bind_eq_some_iff.mp hheader
  obtain ⟨c, hc, hp⟩ := Option.bind_eq_some_iff.mp hclaims
  obtain ⟨ms, hms, hkind, hsubject⟩ := said?_of_read hc
  refine ⟨header, payload, hraw, ?_, ms, c.kind, c.subject, hms, hkind, hsubject,
    names_of_principal? hp⟩
  rw [said?, hj, Option.bind_some, algorithm?_of_headerAlgorithm? halgorithm]

theorem dot_not_mem_of_said? {cs : List Char} {j : Json} (h : said? cs = some j) : '.' ∉ cs := by
  obtain ⟨bytes, hbytes, -⟩ := Option.bind_eq_some_iff.mp h
  exact Base64Url.dot_not_mem_of_decode hbytes

/-- Parts without dots are the parts of a text however it is written as three. -/
theorem dotted_inj {header' payload' signature' : List Char} (hheader : '.' ∉ header)
    (hpayload : '.' ∉ payload) (hsignature : '.' ∉ signature)
    (h : dotted header' payload' signature' = dotted header payload signature) :
    header' = header ∧ payload' = payload ∧ signature' = signature := by
  have hlist := String.ofList_inj.mp h
  have hcount := congrArg (List.count '.') hlist
  simp only [List.count_append, List.count_cons_self, List.count_eq_zero.mpr hheader,
    List.count_eq_zero.mpr hpayload, List.count_eq_zero.mpr hsignature] at hcount
  have hsignature' : '.' ∉ signature' := List.count_eq_zero.mp (by omega)
  have hpayload' : '.' ∉ payload' := List.count_eq_zero.mp (by omega)
  have hlast := congrArg cutLastDot hlist
  rw [cutLastDot_append _ hsignature', cutLastDot_append _ hsignature, Option.some.injEq,
    Prod.mk.injEq] at hlast
  have hfirst := congrArg cutLastDot hlast.1
  rw [cutLastDot_append _ hpayload', cutLastDot_append _ hpayload, Option.some.injEq,
    Prod.mk.injEq] at hfirst
  exact ⟨hfirst.1, hfirst.2, hlast.2⟩

/-- Three parts that are accepted attest by themselves. -/
theorem attests_of_validate (h : i.validate (dotted header payload signature) = .ok p) :
    i.Attests header payload (dotted header payload signature) p := by
  obtain ⟨header', payload', hattests⟩ := exists_attests h
  obtain ⟨j, hj, -⟩ := Option.bind_eq_some_iff.mp hattests.algorithm
  obtain ⟨ms, kind, subject, hms, -⟩ := hattests.claims
  obtain ⟨rfl, rfl, -⟩ := dotted_inj (dot_not_mem_of_said? hj) (dot_not_mem_of_said? hms)
    (Base64Url.dot_not_mem_encode _) hattests.text_eq
  exact hattests

theorem signature_eq (h : i.Attests header payload (dotted header payload signature) p) :
    signature = i.sign (header ++ '.' :: payload) := by
  have hlist := String.ofList_inj.mp h.text_eq
  exact (List.cons.inj (List.append_cancel_left hlist)).2

theorem issuedAt_ofPrincipal (p : Principal) (now : Int) :
    (Claims.ofPrincipal p now).issuedAt = now := by
  cases p <;> rfl

theorem plain_headerJson : headerJson.Plain := by
  refine .object fun m hm => ?_
  simp only [List.mem_cons, List.not_mem_nil, or_false] at hm
  rcases hm with rfl | rfl <;> exact .string _

theorem issue_eq_dotted (i : Issuer) (p : Principal) (now : Int) : (i.issue p now).text =
    dotted (part headerJson) (part (Claims.ofPrincipal p now).json)
      (i.sign (unsigned (Claims.ofPrincipal p now))) := rfl

/-- An issued token speaks for the principal it was issued to. -/
theorem principalOf?_issue (i : Issuer) (p : Principal) {now : Int}
    (h : Int64.minValue.toInt ≤ now ∧ now ≤ Int64.maxValue.toInt) :
    i.principalOf? (i.issue p now).text = some p := by
  have hclaims : (Claims.ofPrincipal p now).issuedAt = now := issuedAt_ofPrincipal p now
  refine principalOf?_eq_some_iff.mpr
    ⟨part headerJson, part (Claims.ofPrincipal p now).json, issue_eq_dotted i p now, ?_, ?_⟩
  · change (said? (part headerJson)).bind headerAlgorithm? = _
    rw [said?_part plain_headerJson]
    rfl
  · rw [part, Base64Url.decode_encode, Option.bind_some, Claims.read_json (by rwa [hclaims]),
      Option.bind_some, Claims.principal?_ofPrincipal]

/-- A text that calls its principal a client is no sensor's. -/
theorem validate_ne_sensor (h : (said? payload).bind kind? = some PrincipalKind.client.name)
    (id : Uuid) : i.validate (dotted header payload signature) ≠ .ok (.sensor id) := by
  intro hvalid
  obtain ⟨ms, kind, subject, hms, hkind, -, hnames⟩ := (attests_of_validate hvalid).claims
  cases hnames
  rw [hms, Option.bind_some, hkind] at h
  exact absurd h (by decide)

theorem kind?_part_client (login : String) (now : Int) :
    (said? (part (Claims.ofPrincipal (.client login) now).json)).bind kind? =
      some PrincipalKind.client.name := by
  rw [said?_part (Claims.plain_json _)]
  simp [kind?, required, single, Claims.json, Claims.ofPrincipal, Json.members, choice?]

/-- Whatever is accepted is a header, claims and their one signature, it is signed with the one
algorithm, and its claims name its principal. -/
theorem validate_sound (i : Issuer) :
    (∀ raw p, i.validate raw = .ok p → ∃ header payload, i.Attests header payload raw p) ∧
    (∀ header payload signature signature' p q,
      i.validate (dotted header payload signature) = .ok p →
      i.validate (dotted header payload signature') = .ok q →
      signature = signature' ∧ p = q) ∧
    (∀ header payload signature, (said? header).bind algorithm? ≠ some "HS256" →
      i.validate (dotted header payload signature) = .error invalidToken) ∧
    (∀ header payload signature id, (said? payload).bind kind? = some PrincipalKind.client.name →
      i.validate (dotted header payload signature) ≠ .ok (.sensor id)) ∧
    ∀ (j : Issuer) login now id,
      i.validate (j.issue (.client login) now).text ≠ .ok (.sensor id) := by
  refine ⟨fun raw p h => exists_attests h, ?_, ?_, ?_, ?_⟩
  · intro header payload signature signature' p q hp hq
    have hsignature : signature = signature' := by
      rw [signature_eq (attests_of_validate hp), signature_eq (attests_of_validate hq)]
    subst hsignature
    rw [hp] at hq
    exact ⟨rfl, Except.ok.inj hq⟩
  · intro header payload signature h
    exact validate_eq_error fun p hp => h (attests_of_validate hp).algorithm
  · intro header payload signature id h
    exact validate_ne_sensor h id
  · intro j login now id
    rw [issue_eq_dotted]
    exact validate_ne_sensor (kind?_part_client login now) id

/-- Claims of a client whose login is the text of a sensor's id. -/
def lookalikeClaims : List Char :=
  part (Claims.ofPrincipal (.client (Uuid.text ⟨5⟩)) 0).json

def unsignedHeader : Json :=
  .object [("alg", .string "none")]

theorem validate_sound_lookalike :
    let i : Issuer := ⟨[0, 255, 16, 171]⟩
    let p : Principal := .client (Uuid.text ⟨5⟩)
    let signature := i.sign (part headerJson ++ '.' :: lookalikeClaims)
    let raw := dotted (part headerJson) lookalikeClaims signature
    (i.validate raw = .ok p ∧ (∃ header payload, i.Attests header payload raw p) ∧
      signature = signature ∧ p = p) ∧
    ((said? (part unsignedHeader)).bind algorithm? ≠ some "HS256" ∧
      i.validate (dotted (part unsignedHeader) lookalikeClaims []) = .error invalidToken) ∧
    ((said? lookalikeClaims).bind kind? = some PrincipalKind.client.name ∧
      i.validate raw ≠ .ok (.sensor ⟨5⟩)) ∧
    i.validate (i.issue p 0).text ≠ .ok (.sensor ⟨5⟩) := by
  intro i p signature raw
  have haccepted : i.validate raw = .ok p :=
    validate_eq_ok_iff.mpr (principalOf?_issue i p (by decide))
  have hplain : unsignedHeader.Plain := by
    refine .object fun m hm => ?_
    rw [List.mem_singleton.mp hm]
    exact .string _
  have halgorithm : (said? (part unsignedHeader)).bind algorithm? ≠ some "HS256" := by
    rw [said?_part hplain]
    decide
  have hkind := kind?_part_client (Uuid.text ⟨5⟩) 0
  obtain ⟨hattests, hunique, hother, hclient, hissued⟩ := validate_sound i
  exact ⟨⟨haccepted, hattests raw p haccepted,
      hunique _ _ signature signature p p haccepted haccepted⟩,
    ⟨halgorithm, hother _ _ [] halgorithm⟩, ⟨hkind, hclient _ _ signature ⟨5⟩ hkind⟩,
    hissued i _ 0 ⟨5⟩⟩

end Auth.Issuer
end SensorRelay
