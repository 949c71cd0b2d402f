import SensorRelay.Auth.Claims
import SensorRelay.Proofs.Json.RoundTrip
import SensorRelay.Proofs.Uuid

/-!
# Reading claims

Claims are read twice, once for their own members and once for the registered ones. Both readings
go through for all claims that are written, so a principal is read back from its claims whatever
text its login is.
-/

namespace SensorRelay

open Text

namespace Json.Scan

variable {α β : Type}

/-- On that input a reader gives a result and stops in front of what is left. -/
def Yields (x : Scan α) (bs : List UInt8) (a : α) (rest : List UInt8) : Prop :=
  x.run.run bs = pure (some a, rest)

namespace Yields

variable {x : Scan α} {f : α → Scan β} {a : α} {b : β} {bs mid rest : List UInt8}

theorem bind (h : Yields x bs a mid) (h' : Yields (f a) mid b rest) :
    Yields (x >>= f) bs b rest := by
  unfold Yields at *
  rw [OptionT.run_bind, Option.elimM, StateT.run_bind, h, pure_bind]
  exact h'

theorem attempt (h : Yields x bs a rest) : Yields x.attempt bs (some a) rest := by
  unfold Yields at *
  rw [Scan.attempt, OptionT.run_mk, StateT.run_map, h, map_pure]

theorem map (f : α → β) (h : Yields x bs a rest) : Yields (f <$> x) bs (f a) rest := by
  unfold Yields at *
  rw [OptionT.run_map, StateT.run_map, h, map_pure]
  rfl

theorem discard (h : Yields x bs a rest) : Yields (Functor.discard x) bs () rest :=
  h.map _

theorem enclosed {close : Scan Unit} (h : Yields x bs a mid) (hclose : Yields close mid () rest) :
    Yields (Scan.enclosed x close) bs a rest :=
  h.attempt.bind (hclose.bind rfl)

end Yields

variable {b : UInt8} {bs rest : List UInt8}

theorem yields_next (b : UInt8) (bs : List UInt8) : Yields next (b :: bs) b bs := rfl

theorem yields_peek (hb : isJsonBlank b = false) (bs : List UInt8) :
    Yields peek (b :: bs) b (b :: bs) := by
  have hblank : Yields blank (b :: bs) () (skipBlank (b :: bs)) := rfl
  rw [skipBlank_cons hb] at hblank
  exact hblank.bind rfl

theorem yields_byte (hb : isJsonBlank b = false) (bs : List UInt8) :
    Yields (byte b) (b :: bs) () bs := by
  refine (yields_peek hb bs).bind ?_
  rw [if_pos rfl]
  exact (yields_next b bs).discard

/-- A text behind its opening quote. -/
theorem yields_text (s : String) : ∃ qs, encoded (quote s) = 0x22 :: qs ∧
    ∀ rest, Yields text (qs ++ rest) s rest := by
  obtain ⟨qs, hquote, hread⟩ := read_quote s
  refine ⟨qs, hquote, fun rest => ?_⟩
  have hget : Yields (get : Scan (List UInt8)) (qs ++ rest) (qs ++ rest) (qs ++ rest) := rfl
  refine hget.bind ?_
  rw [(hread rest).1]
  rfl

/-- A text where any value may stand. -/
theorem yields_value_quote (s : String) (fuel room : Nat) (rest : List UInt8) :
    Yields (value (fuel + 1) room) (encoded (quote s) ++ rest) (.string s) rest := by
  obtain ⟨qs, hquote, htext⟩ := yields_text s
  rw [hquote, List.cons_append, value]
  refine (yields_peek (by decide) (qs ++ rest)).bind ?_
  rw [if_pos rfl]
  exact (yields_next 0x22 (qs ++ rest)).discard.bind ((htext rest).map _)

theorem yields_skipped {j : Json} (h : Plain j) (hrest : Stops rest) :
    Yields skipped (encoded j.chars ++ rest) () rest := by
  have hget : Yields (get : Scan (List UInt8)) (encoded j.chars ++ rest)
    (encoded j.chars ++ rest) (encoded j.chars ++ rest) := rfl
  have hlen := length_le_length_encoded j.chars
  have hfuel : j.chars.length < fuelFor (encoded j.chars ++ rest) := by
    rw [fuelFor, List.length_append]
    omega
  have hread := h.readsBack hrest hfuel
  refine hget.bind ?_
  rw [hread]
  rfl

/-- What stands in front of a member. -/
def lead (first : Bool) : List UInt8 :=
  if first then [] else [0x2C]

theorem yields_nextMember (first : Bool) (bs : List UInt8) :
    Yields (nextMember first) (lead first ++ 0x22 :: bs) true bs := by
  cases first with
  | true => exact (yields_peek (by decide) bs).bind ((yields_byte (by decide) bs).bind rfl)
  | false =>
    exact (yields_peek (by decide) _).bind
      ((yields_byte (by decide) _).bind ((yields_byte (by decide) bs).bind rfl))

theorem yields_nextMember_end (first : Bool) (bs : List UInt8) :
    Yields (nextMember first) (0x7D :: bs) false (0x7D :: bs) :=
  (yields_peek (by decide) bs).bind rfl

end Json.Scan

namespace Auth

open Json Scan

namespace RegisteredClaims

variable {seen : List String} {audience result : Option Json} {first : Bool} {fuel : Nat}
  {rest left : List UInt8} {name : String}

/-- The name of a member is read up to its colon. -/
theorem yields_name (first : Bool) (name : String) (cs : List Char) (rest : List UInt8) :
    ∃ mid mid', Yields (nextMember first)
        (lead first ++ encoded (quote name ++ ':' :: cs) ++ rest) true mid ∧
      Yields text mid name mid' ∧ Yields (byte 0x3A) mid' () (encoded cs ++ rest) := by
  obtain ⟨qs, hquote, htext⟩ := yields_text name
  have hbytes : lead first ++ encoded (quote name ++ ':' :: cs) ++ rest =
      lead first ++ 0x22 :: (qs ++ 0x3A :: (encoded cs ++ rest)) := by
    rw [encoded_append, hquote, encoded_cons]
    simp only [List.append_assoc, List.cons_append]
    rfl
  rw [hbytes]
  exact ⟨_, _, yields_nextMember first _, htext _, yields_byte (by decide) _⟩

/-- Past a member whose name is not registered. -/
theorem yields_members_other {j : Json} (hname : names.contains name = false)
    (hseen : seen.contains name = false) (hj : Plain j) (hrest : Stops rest)
    (h : Yields (members fuel seen audience false) rest result left) :
    Yields (members (fuel + 1) seen audience first)
      (lead first ++ encoded (quote name ++ ':' :: j.chars) ++ rest) result left := by
  obtain ⟨mid, mid', hnext, htext, hcolon⟩ := yields_name first name j.chars rest
  rw [members]
  refine hnext.bind ?_
  rw [if_pos rfl]
  refine htext.bind ?_
  simp only [hseen, hname, Bool.false_eq_true, if_false]
  exact hcolon.bind ((yields_skipped hj hrest).bind h)

/-- Past the subject. -/
theorem yields_members_subject {s : String} (hseen : seen.contains "sub" = false)
    (h : Yields (members fuel ("sub" :: seen) audience false) rest result left) :
    Yields (members (fuel + 1) seen audience first)
      (lead first ++ encoded (quote "sub" ++ ':' :: quote s) ++ rest) result left := by
  obtain ⟨mid, mid', hnext, htext, hcolon⟩ := yields_name first "sub" (quote s) rest
  have hsubject := yields_value_quote s 0 0 rest
  rw [members]
  refine hnext.bind ?_
  rw [if_pos rfl]
  refine htext.bind ?_
  simp only [hseen, Bool.false_eq_true, if_false]
  refine hcolon.bind ?_
  rw [if_pos (by decide), if_neg (by decide)]
  have hpure : Yields (Pure.pure audience : Scan (Option Json)) rest audience rest := rfl
  rw [if_neg (by decide), if_pos trivial]
  exact hsubject.discard.attempt.discard.bind (hpure.bind h)

theorem yields_members_end (fuel : Nat) (rest : List UInt8) :
    Yields (members (fuel + 1) seen audience first) (0x7D :: rest) audience (0x7D :: rest) := by
  rw [members]
  exact (yields_nextMember_end first rest).bind rfl

end RegisteredClaims

namespace Claims

open RegisteredClaims

theorem plain_json (c : Claims) : Plain c.json := by
  refine .object fun m hm => ?_
  simp only [List.mem_cons, List.not_mem_nil, or_false] at hm
  rcases hm with rfl | rfl | rfl
  · exact .string _
  · exact .string _
  · exact .integer _

/-- The three members of written claims. -/
theorem encoded_json (c : Claims) : encoded c.json.chars =
    0x7B :: (lead true ++ encoded (quote "sub" ++ ':' :: quote c.subject) ++
      (lead false ++ encoded (quote "kind" ++ ':' :: (Json.string c.kind.name).chars) ++
        (lead false ++ encoded (quote "iat" ++
          ':' :: (Json.number (signedNumeral c.issuedAt)).chars) ++ [0x7D]))) := by
  have hmembers : c.json.chars = '{' :: (quote "sub" ++ ':' :: quote c.subject ++
      ',' :: (quote "kind" ++ ':' :: quote c.kind.name ++
        ',' :: (quote "iat" ++ ':' :: (signedNumeral c.issuedAt).toList ++ ['}']))) := by
    simp [json, chars, memberChars]
  have hcomma : String.utf8EncodeChar ',' = [0x2C] := rfl
  have hopen : String.utf8EncodeChar '{' = [0x7B] := rfl
  have hclose : String.utf8EncodeChar '}' = [0x7D] := rfl
  rw [hmembers]
  simp [encoded_cons, chars, lead, hcomma, hopen, hclose]

/-- The registered members of written claims name no audience. -/
theorem admitted_json (c : Claims) : admitted (utf8 c.json.text) = true := by
  have hobject : Yields object (encoded c.json.chars) none [] := by
    rw [encoded_json]
    generalize hbody : lead true ++ encoded (quote "sub" ++ ':' :: quote c.subject) ++ _ = body
    refine (yields_byte (by decide) body).bind ?_
    have hget : Yields (get : Scan (List UInt8)) body body body := rfl
    refine hget.bind ?_
    suffices hmembers : Yields (members (fuelFor body) [] none true) body none [0x7D] from
      hmembers.enclosed (yields_byte (by decide) [])
    obtain ⟨fuel, hfuel⟩ : ∃ fuel, fuelFor body = fuel + 4 := by
      have hpos : 0 < body.length := by
        rw [← hbody]
        simp only [lead, List.length_append, List.length_singleton]
        omega
      exact ⟨2 * body.length - 2, by rw [fuelFor]; omega⟩
    rw [hfuel, ← hbody]
    refine yields_members_subject (by decide) ?_
    refine yields_members_other (by decide) (by decide) (.string _) (stops_cons (by decide) _) ?_
    refine yields_members_other (by decide) (by decide) (.integer _) (stops_cons (by decide) _) ?_
    exact yields_members_end _ _
  have hrun : object.run (encoded c.json.chars) = (some none, []) := hobject
  rw [Json.text, utf8_ofList, admitted, hrun]
  rfl

theorem kindOfName?_name (k : PrincipalKind) : kindOfName? k.name = some k := by
  cases k <;> rfl

theorem integer?_signedNumeral {n least greatest : Int} (h : least ≤ n ∧ n ≤ greatest) :
    (Json.number (signedNumeral n)).integer? least greatest = some n := by
  cases n with
  | ofNat n =>
    have hdigits := readDigits_toDigits n
    rw [signedNumeral, numeral, integer?, String.toList_ofList]
    cases hds : Nat.toDigits 10 n with
    | nil => exact absurd hds Nat.toDigits_ne_nil
    | cons d ds =>
      have hminus : d ≠ '-' := by
        rintro rfl
        exact absurd (isDigit_toDigits n '-' (by simp [hds])) (by decide)
      rw [hds] at hdigits
      simpa [hminus, hdigits] using h
  | negSucc n =>
    have hdigits := readDigits_toDigits (n + 1)
    have hlist : (signedNumeral (Int.negSucc n)).toList = '-' :: Nat.toDigits 10 (n + 1) := by
      simp [signedNumeral, numeral]
    have hneg : -((n : Int) + 1) = Int.negSucc n := by omega
    rw [integer?, hlist]
    simpa [hdigits, hneg] using h

theorem ofJson?_json {c : Claims} (h : Int64.minValue.toInt ≤ c.issuedAt ∧
    c.issuedAt ≤ Int64.maxValue.toInt) : ofJson? c.json = some c := by
  have hinteger := integer?_signedNumeral h
  have hsubject : required "sub" c.json = some (.string c.subject) := by
    simp [required, single, json, Json.members]
  have hkind : required "kind" c.json = some (.string c.kind.name) := by
    simp [required, single, json, Json.members]
  have hissued : required "iat" c.json = some (.number (signedNumeral c.issuedAt)) := by
    simp [required, single, json, Json.members]
  rw [ofJson?, hsubject, hkind, hissued]
  simp only [string?, choice?, kindOfName?_name, hinteger, Option.bind_eq_bind, Option.bind_some]

/-- Written claims are read back. -/
theorem read_json {c : Claims} (h : Int64.minValue.toInt ≤ c.issuedAt ∧
    c.issuedAt ≤ Int64.maxValue.toInt) : read (utf8 c.json.text) = some c := by
  rw [read, read_text c.plain_json, Option.bind_some, ofJson?_json h, admitted_json]
  rfl

theorem principal?_ofPrincipal (p : Principal) (issuedAt : Int) :
    (ofPrincipal p issuedAt).principal? = some p := by
  cases p with
  | sensor id => simp [ofPrincipal, principal?, Uuid.parse?_text]
  | client login => rfl

end Claims
end Auth
end SensorRelay
