import SensorRelay.Json.Reader
import SensorRelay.Proofs.Json.Quoted
import SensorRelay.Proofs.Text.Numeral

/-!
# Written values are read back

Every value with integers as its only numbers is read back from its text, with the same members in
the same order. A value ends where a comma or a closing bracket stands, so what follows it does not
matter.
-/

namespace SensorRelay.Json

open Text

/-- Nothing in it is garbled, and its numbers are integers. -/
inductive Plain : Json → Prop
  | null : Plain .null
  | bool (b : Bool) : Plain (.bool b)
  | integer (n : Int) : Plain (.number (signedNumeral n))
  | string (s : String) : Plain (.string s)
  | array {items : List Json} : (∀ j ∈ items, Plain j) → Plain (.array items)
  | object {ms : List (String × Json)} : (∀ m ∈ ms, Plain m.2) → Plain (.object ms)

/-- What may follow a value inside another one or at the end of the input. -/
def Stops (rest : List UInt8) : Prop :=
  ∀ b ∈ rest.head?, b = 0x2C ∨ b = 0x5D ∨ b = 0x7D

theorem stops_nil : Stops [] := by
  intro b hb
  cases hb

theorem stops_cons {b : UInt8} (hb : b = 0x2C ∨ b = 0x5D ∨ b = 0x7D) (rest : List UInt8) :
    Stops (b :: rest) := by
  intro c hc
  obtain rfl := Option.some.inj hc
  exact hb

theorem skipBlank_cons {b : UInt8} (hb : isJsonBlank b = false) (rest : List UInt8) :
    skipBlank (b :: rest) = b :: rest :=
  List.dropWhile_cons_of_neg (by simp [hb])

theorem isAscii_of_isDigit {c : Char} (h : c.isDigit = true) : IsAscii c := by
  simp only [Char.isDigit, Bool.and_eq_true, decide_eq_true_eq] at h
  have hle : c.val.toNat ≤ 57 := h.2
  exact Nat.lt_of_le_of_lt hle (by decide)

theorem isDigitByte_asciiByte {c : Char} (h : c.isDigit = true) :
    isDigitByte (asciiByte c) = true := by
  have hbyte := toNat_asciiByte (isAscii_of_isDigit h)
  simp only [Char.isDigit, Bool.and_eq_true, decide_eq_true_eq] at h
  have hge : 48 ≤ c.toNat := h.1
  have hle : c.toNat ≤ 57 := h.2
  simp only [isDigitByte, Bool.and_eq_true, decide_eq_true_eq, UInt8.le_iff_toNat_le, hbyte]
  exact ⟨hge, hle⟩

theorem isDigit_toDigits (n : Nat) : ∀ c ∈ Nat.toDigits 10 n, c.isDigit = true :=
  fun _ hc => Nat.isDigit_of_mem_toDigits (by decide) (by decide) hc

/-- The bytes of a numeral. -/
def numeralBytes (n : Nat) : List UInt8 :=
  (Nat.toDigits 10 n).map asciiByte

theorem encoded_numeral (n : Nat) : encoded (numeral n).toList = numeralBytes n := by
  rw [numeral, String.toList_ofList]
  exact encoded_of_isAscii fun c hc => isAscii_of_isDigit (isDigit_toDigits n c hc)

theorem isDigitByte_numeralBytes (n : Nat) : ∀ b ∈ numeralBytes n, isDigitByte b = true := by
  intro b hb
  obtain ⟨c, hc, rfl⟩ := List.mem_map.mp hb
  exact isDigitByte_asciiByte (isDigit_toDigits n c hc)

theorem takeWhile_isDigitByte_of_stops {rest : List UInt8} (h : Stops rest) :
    rest.takeWhile isDigitByte = [] := by
  cases rest with
  | nil => rfl
  | cons b rest =>
    refine List.takeWhile_cons_of_neg ?_
    rcases h b rfl with rfl | rfl | rfl <;> decide

theorem wholePart_numeralBytes (n : Nat) {rest : List UInt8} (h : Stops rest) :
    wholePart (numeralBytes n ++ rest) = some (numeralBytes n, rest) := by
  have hne : numeralBytes n ≠ [] := by simp [numeralBytes]
  have hrun : digitRun (numeralBytes n ++ rest) = some (numeralBytes n, rest) := by
    rw [digitRun, List.takeWhile_append_of_pos (isDigitByte_numeralBytes n),
      takeWhile_isDigitByte_of_stops h, List.append_nil]
    simp [hne]
  rw [wholePart, hrun]
  split
  · next heq =>
    -- the bytes would be those of a longer numeral that begins with a zero
    obtain ⟨hbytes, -⟩ := Prod.mk.inj (Option.some.inj heq)
    obtain ⟨c, cs, hds, hc, hcs⟩ := List.map_eq_cons_iff.mp hbytes
    obtain ⟨d, ds, rfl, -, -⟩ := List.map_eq_cons_iff.mp hcs
    have hascii : IsAscii c := isAscii_of_isDigit (isDigit_toDigits n c (by simp [hds]))
    obtain rfl : c = '0' := by
      rw [← ofNat_asciiByte hascii, hc]
      rfl
    exact absurd hds (toDigits_ne_zero_cons n d ds)
  · rfl

theorem fractionPart_of_stops {rest : List UInt8} (h : Stops rest) :
    fractionPart rest = some ([], rest) := by
  cases rest with
  | nil => rfl
  | cons b rest => rcases h b rfl with rfl | rfl | rfl <;> rfl

theorem exponentPart_of_stops {rest : List UInt8} (h : Stops rest) :
    exponentPart rest = some ([], rest) := by
  cases rest with
  | nil => rfl
  | cons b rest => rcases h b rfl with rfl | rfl | rfl <;> rfl

/-- The first byte of a numeral is a digit. -/
theorem numeralBytes_eq_cons (n : Nat) :
    ∃ b bs, numeralBytes n = b :: bs ∧ isDigitByte b = true := by
  cases h : numeralBytes n with
  | nil => simp [numeralBytes] at h
  | cons b bs => exact ⟨b, bs, rfl, isDigitByte_numeralBytes n b (by simp [h])⟩

theorem numberBytes_numeral (n : Nat) {rest : List UInt8} (h : Stops rest) :
    numberBytes (numeralBytes n ++ rest) = some (numeralBytes n, rest) := by
  have hwhole := wholePart_numeralBytes n h
  obtain ⟨b, bs, hb, hdigit⟩ := numeralBytes_eq_cons n
  have hminus : b ≠ 0x2D := by
    rintro rfl
    cases hdigit
  rw [hb, List.cons_append] at hwhole ⊢
  rw [numberBytes]
  · simp [hwhole, fractionPart_of_stops h, exponentPart_of_stops h]
  · exact fun _ heq => hminus (List.cons.inj heq).1

theorem numberBytes_negative (n : Nat) {rest : List UInt8} (h : Stops rest) :
    numberBytes (0x2D :: numeralBytes n ++ rest) = some (0x2D :: numeralBytes n, rest) := by
  rw [List.cons_append, numberBytes]
  simp [wholePart_numeralBytes n h, fractionPart_of_stops h, exponentPart_of_stops h]

/-- An integer literal is read back as it stands. -/
theorem numberBytes_signedNumeral (n : Int) {rest : List UInt8} (h : Stops rest) :
    numberBytes (encoded (signedNumeral n).toList ++ rest) =
      some (encoded (signedNumeral n).toList, rest) := by
  cases n with
  | ofNat n =>
    rw [signedNumeral, encoded_numeral]
    exact numberBytes_numeral n h
  | negSucc n =>
    rw [signedNumeral, String.toList_append, encoded_append, encoded_numeral]
    exact numberBytes_negative (n + 1) h

theorem isAscii_signedNumeral (n : Int) : ∀ c ∈ (signedNumeral n).toList, IsAscii c := by
  have hnumeral (k : Nat) : ∀ c ∈ (numeral k).toList, IsAscii c := by
    rw [numeral, String.toList_ofList]
    exact fun c hc => isAscii_of_isDigit (isDigit_toDigits k c hc)
  cases n with
  | ofNat n => exact hnumeral n
  | negSucc n =>
    rw [signedNumeral, String.toList_append]
    intro c hc
    rcases List.mem_append.mp hc with hc | hc
    · rw [List.mem_singleton.mp hc]
      decide
    · exact hnumeral (n + 1) c hc

/-- What a number can begin with. -/
def isNumberStart (b : UInt8) : Bool :=
  b == 0x2D || isDigitByte b

theorem encoded_signedNumeral_eq_cons (n : Int) :
    ∃ b bs, encoded (signedNumeral n).toList = b :: bs ∧ isNumberStart b = true := by
  cases n with
  | ofNat n =>
    obtain ⟨b, bs, hb, hdigit⟩ := numeralBytes_eq_cons n
    refine ⟨b, bs, ?_, by simp [isNumberStart, hdigit]⟩
    rw [signedNumeral, encoded_numeral, hb]
  | negSucc n =>
    refine ⟨0x2D, numeralBytes (n + 1), ?_, by decide⟩
    rw [signedNumeral, String.toList_append, encoded_append, encoded_numeral]
    rfl

theorem ne_of_isNumberStart {b x : UInt8} (hb : isNumberStart b = true)
    (hx : isNumberStart x = false) : b ≠ x := by
  rintro rfl
  rw [hb] at hx
  cases hx

/-- The first byte of a value is not taken for a blank or for the end of a list. -/
def Begins (bs : List UInt8) : Prop :=
  ∃ b rest, bs = b :: rest ∧ isJsonBlank b = false ∧ b ≠ 0x5D

theorem begins_number {b : UInt8} (hb : isNumberStart b = true) (bs : List UInt8) :
    Begins (b :: bs) := by
  have hne {x : UInt8} (hx : isNumberStart x = false) : b ≠ x := ne_of_isNumberStart hb hx
  refine ⟨b, bs, rfl, ?_, hne (by decide)⟩
  simp [isJsonBlank, hne (x := 0x20) (by decide), hne (x := 0x09) (by decide),
    hne (x := 0x0A) (by decide), hne (x := 0x0D) (by decide)]

theorem begins_chars {j : Json} (h : Plain j) : Begins (encoded j.chars) := by
  cases h with
  | null => exact ⟨0x6E, [0x75, 0x6C, 0x6C], rfl, by decide⟩
  | bool b =>
    cases b with
    | false => exact ⟨0x66, [0x61, 0x6C, 0x73, 0x65], rfl, by decide⟩
    | true => exact ⟨0x74, [0x72, 0x75, 0x65], rfl, by decide⟩
  | integer n =>
    obtain ⟨b, bs, hb, hstart⟩ := encoded_signedNumeral_eq_cons n
    rw [chars, hb]
    exact begins_number hstart bs
  | string s => exact ⟨0x22, _, encoded_cons _ _, by decide⟩
  | array h => exact ⟨0x5B, _, by rw [chars]; exact encoded_cons _ _, by decide⟩
  | object h => exact ⟨0x7B, _, by rw [chars]; exact encoded_cons _ _, by decide⟩

theorem readValue_number {b : UInt8} (hb : isNumberStart b = true) (bs : List UInt8)
    (fuel : Nat) :
    readValue (fuel + 1) (b :: bs) =
      (numberBytes (b :: bs)).map fun p => (number (asciiText p.1), p.2) := by
  have hne {x : UInt8} (hx : isNumberStart x = false) : b ≠ x := ne_of_isNumberStart hb hx
  obtain ⟨_, _, heq, hblank, -⟩ := begins_number hb bs
  obtain ⟨rfl, rfl⟩ := List.cons.inj heq
  rw [readValue, skipBlank_cons hblank]
  split
  · next h => exact absurd (List.cons.inj h).1 (hne (by decide))
  · next h => exact absurd (List.cons.inj h).1 (hne (by decide))
  · next h => exact absurd (List.cons.inj h).1 (hne (by decide))
  · next h => exact absurd (List.cons.inj h).1 (hne (by decide))
  · next h => exact absurd (List.cons.inj h).1 (hne (by decide))
  · next h => exact absurd (List.cons.inj h).1 (hne (by decide))
  · rfl

theorem readValue_integer (n : Int) {rest : List UInt8} (h : Stops rest) (fuel : Nat) :
    readValue (fuel + 1) (encoded (signedNumeral n).toList ++ rest) =
      some (.number (signedNumeral n), rest) := by
  have hnumber := numberBytes_signedNumeral n h
  have htext : asciiText (encoded (signedNumeral n).toList) = signedNumeral n := by
    rw [asciiText, map_ofNat_encoded (isAscii_signedNumeral n), String.ofList_toList]
  obtain ⟨b, bs, hb, hstart⟩ := encoded_signedNumeral_eq_cons n
  rw [hb] at hnumber htext ⊢
  rw [List.cons_append] at hnumber ⊢
  rw [readValue_number hstart, hnumber, Option.map_some, htext]

theorem readValue_quote (s : String) (rest : List UInt8) (fuel : Nat) :
    readValue (fuel + 1) (encoded (quote s) ++ rest) = some (.string s, rest) := by
  obtain ⟨bs, hbytes, hread⟩ := read_quote s
  obtain ⟨htext, hskip⟩ := hread rest
  rw [hbytes, List.cons_append, readValue, skipBlank_cons (by decide)]
  simp [htext, hskip]

/-- Whatever may follow, the value is read back from its text, with fuel for every character. -/
def ReadsBack (j : Json) : Prop :=
  ∀ {rest : List UInt8} {fuel : Nat}, Stops rest → j.chars.length < fuel →
    readValue fuel (encoded j.chars ++ rest) = some (j, rest)

theorem readsBack_of_succ {j : Json} (h : ∀ {rest : List UInt8} {fuel : Nat}, Stops rest →
    j.chars.length ≤ fuel → readValue (fuel + 1) (encoded j.chars ++ rest) = some (j, rest)) :
    j.ReadsBack := by
  intro rest fuel hrest hfuel
  obtain ⟨fuel, rfl⟩ := Nat.exists_eq_add_one_of_ne_zero (Nat.ne_zero_of_lt hfuel)
  exact h hrest (Nat.le_of_lt_succ hfuel)

theorem itemChars_cons_cons (j k : Json) (items : List Json) :
    itemChars (j :: k :: items) = j.chars ++ ',' :: itemChars (k :: items) := by
  rw [itemChars]
  simp

theorem memberChars_cons_cons (name : String) (j : Json) (m : String × Json)
    (ms : List (String × Json)) :
    memberChars ((name, j) :: m :: ms) =
      quote name ++ ':' :: j.chars ++ ',' :: memberChars (m :: ms) := by
  rw [memberChars]
  simp

/-- The items of a list are read up to its end. -/
theorem readItems_itemChars (j : Json) (items : List Json) (h : ∀ i ∈ j :: items, i.ReadsBack)
    (rest : List UInt8) {fuel : Nat} (hfuel : (itemChars (j :: items)).length < fuel) :
    readItems fuel (encoded (itemChars (j :: items)) ++ rest) = some (j :: items, rest) := by
  induction items generalizing j fuel with
  | nil =>
    obtain ⟨fuel, rfl⟩ := Nat.exists_eq_add_one_of_ne_zero (Nat.ne_zero_of_lt hfuel)
    rw [itemChars, List.length_append, List.length_singleton] at hfuel
    have hj : readValue fuel (encoded j.chars ++ 0x5D :: rest) = some (j, 0x5D :: rest) :=
      h j List.mem_cons_self (stops_cons (by decide) rest) (by omega)
    have hbytes : encoded (itemChars [j]) ++ rest = encoded j.chars ++ 0x5D :: rest := by
      rw [itemChars, encoded_append, List.append_assoc]
      rfl
    rw [hbytes, readItems, hj]
    rfl
  | cons k items ih =>
    obtain ⟨fuel, rfl⟩ := Nat.exists_eq_add_one_of_ne_zero (Nat.ne_zero_of_lt hfuel)
    rw [itemChars_cons_cons, List.length_append, List.length_cons] at hfuel
    have hless : (itemChars (k :: items)).length < fuel := by omega
    have hitems := ih k (fun i hi => h i (List.mem_cons_of_mem j hi)) hless
    generalize hmore : encoded (itemChars (k :: items)) ++ rest = more at hitems
    have hj : readValue fuel (encoded j.chars ++ 0x2C :: more) = some (j, 0x2C :: more) :=
      h j List.mem_cons_self (stops_cons (by decide) more) (by omega)
    have hbytes : encoded (itemChars (j :: k :: items)) ++ rest =
        encoded j.chars ++ 0x2C :: more := by
      rw [itemChars_cons_cons, encoded_append, List.append_assoc, ← hmore]
      rfl
    rw [hbytes, readItems, hj]
    simp [skipBlank_cons (show isJsonBlank 0x2C = false by decide), hitems]

/-- The name of a member and the value after its colon. -/
theorem readMembers_member (name : String) (j : Json) (bs : List UInt8) (fuel : Nat) :
    readMembers (fuel + 1) (encoded (quote name ++ ':' :: j.chars) ++ bs) =
      (readValue fuel (encoded j.chars ++ bs)).bind fun p =>
        match skipBlank p.2 with
        | 0x2C :: r => (readMembers fuel r).map fun q => (q.1.map ((name, p.1) :: ·), q.2)
        | 0x7D :: r => some (some [(name, p.1)], r)
        | _ => none := by
  obtain ⟨qs, hquote, hread⟩ := read_quote name
  obtain ⟨htext, hskip⟩ := hread (0x3A :: (encoded j.chars ++ bs))
  have hbytes : encoded (quote name ++ ':' :: j.chars) ++ bs =
      0x22 :: (qs ++ 0x3A :: (encoded j.chars ++ bs)) := by
    rw [encoded_append, hquote, encoded_cons, List.append_assoc, List.cons_append]
    rfl
  rw [hbytes, readMembers, skipBlank_cons (by decide)]
  simp only [htext, hskip, Option.bind_eq_bind, Option.bind_some]
  rw [skipBlank_cons (by decide)]
  simp only [Option.map_some]
  cases readValue fuel (encoded j.chars ++ bs) with
  | none => rfl
  | some p =>
    simp only [Option.bind_some]
    cases skipBlank p.2 with
    | nil => rfl
    | cons b r =>
      by_cases hcomma : b = 0x2C
      · subst hcomma
        cases hrest : readMembers fuel r <;> simp [hrest]
      · by_cases hbrace : b = 0x7D
        · subst hbrace
          rfl
        · simp [hcomma, hbrace]

/-- The members of an object are read up to its end. -/
theorem readMembers_memberChars (m : String × Json) (ms : List (String × Json))
    (h : ∀ x ∈ m :: ms, x.2.ReadsBack) (rest : List UInt8) {fuel : Nat}
    (hfuel : (memberChars (m :: ms)).length < fuel) :
    readMembers fuel (encoded (memberChars (m :: ms)) ++ rest) = some (some (m :: ms), rest) := by
  obtain ⟨name, j⟩ := m
  induction ms generalizing name j fuel with
  | nil =>
    obtain ⟨fuel, rfl⟩ := Nat.exists_eq_add_one_of_ne_zero (Nat.ne_zero_of_lt hfuel)
    simp only [memberChars, List.length_append, List.length_cons, List.length_nil] at hfuel
    have hj : readValue fuel (encoded j.chars ++ 0x7D :: rest) = some (j, 0x7D :: rest) :=
      h (name, j) List.mem_cons_self (stops_cons (by decide) rest) (by dsimp only; omega)
    have hbytes : encoded (memberChars [(name, j)]) ++ rest =
        encoded (quote name ++ ':' :: j.chars) ++ 0x7D :: rest := by
      rw [memberChars, encoded_append, List.append_assoc]
      rfl
    rw [hbytes, readMembers_member, hj]
    rfl
  | cons x ms ih =>
    obtain ⟨fuel, rfl⟩ := Nat.exists_eq_add_one_of_ne_zero (Nat.ne_zero_of_lt hfuel)
    simp only [memberChars_cons_cons, List.length_append, List.length_cons] at hfuel
    have hless : (memberChars (x :: ms)).length < fuel := by omega
    have hms := ih x.1 x.2 (fun y hy => h y (List.mem_cons_of_mem _ hy)) hless
    generalize hmore : encoded (memberChars (x :: ms)) ++ rest = more at hms
    have hj : readValue fuel (encoded j.chars ++ 0x2C :: more) = some (j, 0x2C :: more) :=
      h (name, j) List.mem_cons_self (stops_cons (by decide) more) (by dsimp only; omega)
    have hbytes : encoded (memberChars ((name, j) :: x :: ms)) ++ rest =
        encoded (quote name ++ ':' :: j.chars) ++ 0x2C :: more := by
      rw [memberChars_cons_cons, encoded_append, List.append_assoc, ← hmore]
      rfl
    rw [hbytes, readMembers_member, hj]
    simp [skipBlank_cons (show isJsonBlank 0x2C = false by decide), hms]

theorem begins_itemChars {j : Json} (h : Plain j) (items : List Json) :
    Begins (encoded (itemChars (j :: items))) := by
  obtain ⟨b, bs, hb, hbegins⟩ := begins_chars h
  cases items with
  | nil =>
    rw [itemChars, encoded_append, hb]
    exact ⟨b, _, rfl, hbegins⟩
  | cons k items =>
    rw [itemChars_cons_cons, encoded_append, hb]
    exact ⟨b, _, rfl, hbegins⟩

theorem memberChars_eq_quote (m : String × Json) (ms : List (String × Json)) :
    ∃ bs, encoded (memberChars (m :: ms)) = 0x22 :: bs := by
  obtain ⟨name, j⟩ := m
  cases ms with
  | nil =>
    rw [memberChars]
    exact ⟨_, encoded_cons _ _⟩
  | cons x ms =>
    rw [memberChars_cons_cons]
    exact ⟨_, encoded_cons _ _⟩

/-- A plain value is read back, whatever stops it. -/
theorem Plain.readsBack {j : Json} (h : Plain j) : j.ReadsBack := by
  induction h with
  | null =>
    refine readsBack_of_succ fun {rest fuel} _ _ => ?_
    change readValue (fuel + 1) (0x6E :: 0x75 :: 0x6C :: 0x6C :: rest) = _
    rw [readValue, skipBlank_cons (by decide)]
    rfl
  | bool b =>
    refine readsBack_of_succ fun {rest fuel} _ _ => ?_
    cases b with
    | false =>
      change readValue (fuel + 1) (0x66 :: 0x61 :: 0x6C :: 0x73 :: 0x65 :: rest) = _
      rw [readValue, skipBlank_cons (by decide)]
      rfl
    | true =>
      change readValue (fuel + 1) (0x74 :: 0x72 :: 0x75 :: 0x65 :: rest) = _
      rw [readValue, skipBlank_cons (by decide)]
      rfl
  | integer n =>
    refine readsBack_of_succ fun {rest fuel} hrest _ => ?_
    exact readValue_integer n hrest fuel
  | string s =>
    refine readsBack_of_succ fun {rest fuel} _ _ => ?_
    exact readValue_quote s rest fuel
  | @array items hitems ih =>
    refine readsBack_of_succ fun {rest fuel} _ hfuel => ?_
    rw [chars, List.length_cons] at hfuel
    have hbytes : encoded (chars (.array items)) ++ rest =
        0x5B :: (encoded (itemChars items) ++ rest) := by
      rw [chars, encoded_cons]
      rfl
    rw [hbytes, readValue, skipBlank_cons (by decide)]
    cases items with
    | nil => rfl
    | cons j items =>
      have hread := readItems_itemChars j items (fun i hi => ih i hi) rest hfuel
      obtain ⟨b, bs, hb, hblank, hclose⟩ := begins_itemChars (hitems j List.mem_cons_self) items
      rw [hb, List.cons_append] at hread ⊢
      simp only [skipBlank_cons hblank]
      split
      · next heq => exact absurd (List.cons.inj heq).1 hclose
      · rw [hread, Option.map_some]
  | @object ms hms ih =>
    refine readsBack_of_succ fun {rest fuel} _ hfuel => ?_
    rw [chars, List.length_cons] at hfuel
    have hbytes : encoded (chars (.object ms)) ++ rest =
        0x7B :: (encoded (memberChars ms) ++ rest) := by
      rw [chars, encoded_cons]
      rfl
    rw [hbytes, readValue, skipBlank_cons (by decide)]
    cases ms with
    | nil => rfl
    | cons m ms =>
      have hread := readMembers_memberChars m ms (fun x hx => ih x hx) rest hfuel
      obtain ⟨bs, hb⟩ := memberChars_eq_quote m ms
      rw [hb, List.cons_append] at hread ⊢
      simp only [skipBlank_cons (show isJsonBlank 0x22 = false by decide)]
      rw [hread]
      rfl

/-- Every plain value is read back from its text. -/
theorem read_text {j : Json} (h : Plain j) : read (utf8 j.text) = some j := by
  have hlen := length_le_length_encoded j.chars
  have hfuel : j.chars.length < 2 * (encoded j.chars).length + 2 := by omega
  have hread := h.readsBack stops_nil hfuel
  rw [List.append_nil] at hread
  rw [text, utf8_ofList, read, fuelFor, hread]
  rfl

end SensorRelay.Json
