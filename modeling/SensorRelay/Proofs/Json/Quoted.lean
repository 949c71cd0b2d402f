import SensorRelay.Json.StringLiteral
import SensorRelay.Json.Writer
import SensorRelay.Proofs.Text.Ascii

/-!
# Quoted texts

A character inside a literal is written by a short escape, by its number or as it is. Each of the
three is read back to the character, so what is quoted is read back up to the closing quote.
-/

namespace SensorRelay.Json

open Text

/-- These bytes of a literal write those bytes of a text, whatever follows in the literal. -/
def Reads (bs text : List UInt8) : Prop :=
  ∀ rest, stringBytes (bs ++ rest) =
      ((stringBytes rest).1.map (text ++ ·), (stringBytes rest).2) ∧
    skipString (bs ++ rest) = skipString rest

namespace Reads

theorem nil : Reads [] [] := by
  intro rest
  simp

theorem append {bs cs s t : List UInt8} (h : Reads bs s) (h' : Reads cs t) :
    Reads (bs ++ cs) (s ++ t) := by
  intro rest
  obtain ⟨hread, hskip⟩ := h (cs ++ rest)
  obtain ⟨hread', hskip'⟩ := h' rest
  rw [List.append_assoc, hread, hskip, hread', hskip']
  simp [Function.comp_def]

/-- A byte that stands for itself. -/
theorem plain {b : UInt8} (hge : 0x20 ≤ b) (hquote : b ≠ 0x22) (hslash : b ≠ 0x5C) :
    Reads [b] [b] := by
  intro rest
  have hno : ¬ (b < 0x20 ∨ b = 0x5C) := fun h => h.elim (UInt8.not_lt.mpr hge) hslash
  rw [List.singleton_append]
  constructor
  · rw [stringBytes, if_neg hno]
    · rfl
    all_goals simp_all
  · rw [skipString, if_neg hno]
    all_goals simp_all

theorem simple {e b : UInt8} (h : simpleEscape? e = some b) : Reads [0x5C, e] [b] := by
  intro rest
  have hu : e ≠ 0x75 := by
    rintro rfl
    cases h
  change stringBytes (0x5C :: e :: rest) = _ ∧ skipString (0x5C :: e :: rest) = _
  constructor
  · rw [stringBytes, h]
    · rfl
    all_goals simp_all
  · rw [skipString, h]
    · rfl
    all_goals simp_all

/-- A code unit below the surrogates, whether or not another one follows. -/
theorem unit {a b c d : UInt8} {n : Nat} (h : codeUnit a b c d = some n) (hn : n < 0xD800) :
    Reads [0x5C, 0x75, a, b, c, d] (String.utf8EncodeChar (Char.ofNat n)) := by
  intro rest
  have hlow : isLow n = false := by
    simp only [isLow, Bool.and_eq_false_iff, decide_eq_false_iff_not]
    omega
  have hhigh : isHigh n = false := by
    simp only [isHigh, Bool.and_eq_false_iff, decide_eq_false_iff_not]
    omega
  change stringBytes (0x5C :: 0x75 :: a :: b :: c :: d :: rest) = _ ∧
    skipString (0x5C :: 0x75 :: a :: b :: c :: d :: rest) = _
  constructor
  · by_cases hpair : ∃ a' b' c' d' r, rest = 0x5C :: 0x75 :: a' :: b' :: c' :: d' :: r
    · obtain ⟨a', b', c', d', r, rfl⟩ := hpair
      rw [stringBytes, h]
      simp only [hlow, hhigh, Bool.false_eq_true, if_false]
    · rw [stringBytes, h]
      · simp only [hlow, hhigh, Bool.false_eq_true, if_false]
      · exact fun a' b' c' d' r hr => hpair ⟨a', b', c', d', r, hr⟩
  · rw [skipString, h]
    rfl

theorem of_plain {bs : List UInt8} (h : ∀ b ∈ bs, Reads [b] [b]) : Reads bs bs := by
  induction bs with
  | nil => exact .nil
  | cons b bs ih =>
    have hrest := ih fun c hc => h c (List.mem_cons_of_mem b hc)
    exact (h b List.mem_cons_self).append hrest

end Reads

theorem isAscii_hexDigit {n : Nat} (h : n < 16) : IsAscii (hexDigit n) := by
  revert n
  decide

theorem codeUnit_hexDigits {n : Nat} (h : n < Nat.pow 16 4) : ∃ a b c d,
    encoded (hexDigits 4 n) = [a, b, c, d] ∧ codeUnit a b c d = some n := by
  have hascii : ∀ c ∈ hexDigits 4 n, IsAscii c := by
    simp only [hexDigits, List.nil_append, List.cons_append, List.mem_cons, List.not_mem_nil,
      or_false]
    rintro c (rfl | rfl | rfl | rfl) <;> exact isAscii_hexDigit (Nat.mod_lt _ (by decide))
  have hread := readHex_hexDigits 4 n
  rw [Nat.mod_eq_of_lt h, ← map_ofNat_encoded hascii] at hread
  obtain ⟨a, b, c, d, hbytes⟩ : ∃ a b c d, encoded (hexDigits 4 n) = [a, b, c, d] := by
    rw [encoded_of_isAscii hascii]
    exact ⟨_, _, _, _, rfl⟩
  rw [hbytes] at hread
  exact ⟨a, b, c, d, hbytes, hread⟩

theorem reads_utf8EncodeChar {c : Char} (hquote : c ≠ '"') (hslash : c ≠ '\\')
    (hge : 0x20 ≤ c.toNat) : Reads (String.utf8EncodeChar c) (String.utf8EncodeChar c) := by
  by_cases hc : IsAscii c
  · have hback := ofNat_asciiByte hc
    rw [utf8EncodeChar_of_isAscii hc]
    refine .plain ?_ (fun h => hquote ?_) (fun h => hslash ?_)
    · rw [UInt8.le_iff_toNat_le, toNat_asciiByte hc]
      exact hge
    · rw [← hback, h]
      rfl
    · rw [← hback, h]
      rfl
  · refine .of_plain fun b hb => ?_
    have hle := le_of_mem_utf8EncodeChar hc b hb
    refine .plain (UInt8.le_trans (by decide) hle) ?_ ?_
    · rintro rfl
      exact absurd hle (by decide)
    · rintro rfl
      exact absurd hle (by decide)

/-- How a character is written: by a one-letter escape, by its number or as it is. -/
theorem escape_cases (c : Char) :
    (∃ e : Char, escape c = ['\\', e] ∧ IsAscii e ∧ IsAscii c ∧
      simpleEscape? (asciiByte e) = some (asciiByte c)) ∨
    (escape c = '\\' :: 'u' :: hexDigits 4 c.toNat ∧ c.toNat < 0x20) ∨
    (escape c = [c] ∧ c ≠ '"' ∧ c ≠ '\\' ∧ 0x20 ≤ c.toNat) := by
  unfold escape
  split_ifs with hquote hslash hback hfeed hline hreturn htab hcontrol
  · subst hquote
    exact .inl ⟨'"', rfl, by decide⟩
  · subst hslash
    exact .inl ⟨'\\', rfl, by decide⟩
  · obtain rfl : c = Char.ofNat 0x08 := by rw [← hback, Char.ofNat_toNat]
    exact .inl ⟨'b', rfl, by decide⟩
  · obtain rfl : c = Char.ofNat 0x0C := by rw [← hfeed, Char.ofNat_toNat]
    exact .inl ⟨'f', rfl, by decide⟩
  · subst hline
    exact .inl ⟨'n', rfl, by decide⟩
  · subst hreturn
    exact .inl ⟨'r', rfl, by decide⟩
  · subst htab
    exact .inl ⟨'t', rfl, by decide⟩
  · exact .inr (.inl ⟨rfl, hcontrol⟩)
  · exact .inr (.inr ⟨rfl, hquote, hslash, Nat.le_of_not_lt hcontrol⟩)

theorem reads_escape (c : Char) : Reads (encoded (escape c)) (String.utf8EncodeChar c) := by
  rcases escape_cases c with ⟨e, heq, he, hc, hb⟩ | ⟨heq, hlt⟩ | ⟨heq, hquote, hslash, hge⟩
  · have hbytes : encoded ['\\', e] = [0x5C, asciiByte e] := by
      rw [encoded_cons, encoded_cons, utf8EncodeChar_of_isAscii he]
      rfl
    rw [heq, hbytes, utf8EncodeChar_of_isAscii hc]
    exact .simple hb
  · obtain ⟨w, x, y, z, hdigits, hunit⟩ :=
      codeUnit_hexDigits (Nat.lt_trans hlt (by decide : 0x20 < Nat.pow 16 4))
    have hbytes : encoded ('\\' :: 'u' :: hexDigits 4 c.toNat) =
        0x5C :: 0x75 :: encoded (hexDigits 4 c.toNat) := by
      rw [encoded_cons, encoded_cons]
      rfl
    have hreads := Reads.unit hunit (Nat.lt_trans hlt (by decide))
    rw [Char.ofNat_toNat] at hreads
    rw [heq, hbytes, hdigits]
    exact hreads
  · rw [heq, encoded_cons, encoded_nil, List.append_nil]
    exact reads_utf8EncodeChar hquote hslash hge

theorem reads_escapes (cs : List Char) : Reads (encoded (cs.flatMap escape)) (encoded cs) := by
  induction cs with
  | nil => exact .nil
  | cons c cs ih =>
    rw [List.flatMap_cons, encoded_append, encoded_cons]
    exact (reads_escape c).append ih

/-- What is quoted is read back, up to the closing quote. -/
theorem read_quote (s : String) : ∃ bs, encoded (quote s) = 0x22 :: bs ∧
    ∀ rest, stringText (bs ++ rest) = (some s, rest) ∧ skipString (bs ++ rest) = some rest := by
  refine ⟨encoded (s.toList.flatMap escape ++ ['"']), encoded_cons _ _, fun rest => ?_⟩
  have hend : encoded (s.toList.flatMap escape ++ ['"']) ++ rest =
      encoded (s.toList.flatMap escape) ++ 0x22 :: rest := by
    rw [encoded_append, List.append_assoc]
    rfl
  obtain ⟨hread, hskip⟩ := reads_escapes s.toList (0x22 :: rest)
  rw [hend, hskip, stringText, hread]
  refine ⟨?_, rfl⟩
  change (readUtf8 (utf8 s ++ []), rest) = _
  rw [List.append_nil, readUtf8_utf8]

end SensorRelay.Json
