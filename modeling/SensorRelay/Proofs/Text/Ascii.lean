import SensorRelay.Text.Blank
import SensorRelay.Text.Utf8
import Mathlib.Tactic.SplitIfs

/-!
# Bytes of characters

The bytes of a run of characters. An ASCII character is one byte, and the bytes of any other
character are no ASCII, so what is written in ASCII can be looked for byte by byte.
-/

namespace SensorRelay.Text

/-- The bytes of a run of characters. -/
def encoded (cs : List Char) : List UInt8 :=
  cs.flatMap String.utf8EncodeChar

theorem utf8_eq_encoded (s : String) : utf8 s = encoded s.toList := rfl

theorem utf8_ofList (cs : List Char) : utf8 (String.ofList cs) = encoded cs := by
  rw [utf8_eq_encoded, String.toList_ofList]

@[simp] theorem encoded_nil : encoded [] = [] := rfl

theorem encoded_cons (c : Char) (cs : List Char) :
    encoded (c :: cs) = String.utf8EncodeChar c ++ encoded cs :=
  List.flatMap_cons

@[simp] theorem encoded_append (cs ds : List Char) :
    encoded (cs ++ ds) = encoded cs ++ encoded ds :=
  List.flatMap_append

theorem length_le_length_encoded (cs : List Char) : cs.length ≤ (encoded cs).length := by
  induction cs with
  | nil => exact Nat.le_refl 0
  | cons c cs ih =>
    have hc : 0 < c.utf8Size := c.utf8Size_pos
    rw [encoded_cons, List.length_append, String.length_utf8EncodeChar, List.length_cons]
    omega

def IsAscii (c : Char) : Prop := c.toNat < 128

instance (c : Char) : Decidable (IsAscii c) := inferInstanceAs (Decidable (_ < _))

/-- The one byte of an ASCII character. -/
def asciiByte (c : Char) : UInt8 := UInt8.ofNat c.toNat

variable {c : Char} {cs : List Char}

theorem utf8EncodeChar_of_isAscii (h : IsAscii c) : String.utf8EncodeChar c = [asciiByte c] := by
  have hle : c.val.toNat ≤ 127 := Nat.le_of_lt_succ h
  rw [String.utf8EncodeChar, if_pos hle]
  rfl

theorem toNat_asciiByte (h : IsAscii c) : (asciiByte c).toNat = c.toNat := by
  rw [asciiByte, UInt8.toNat_ofNat']
  exact Nat.mod_eq_of_lt (Nat.lt_trans h (by decide))

theorem ofNat_asciiByte (h : IsAscii c) : Char.ofNat (asciiByte c).toNat = c := by
  rw [toNat_asciiByte h, Char.ofNat_toNat]

theorem encoded_of_isAscii (h : ∀ c ∈ cs, IsAscii c) : encoded cs = cs.map asciiByte := by
  induction cs with
  | nil => rfl
  | cons c cs ih =>
    rw [encoded_cons, utf8EncodeChar_of_isAscii (h c List.mem_cons_self),
      ih fun d hd => h d (List.mem_cons_of_mem c hd)]
    rfl

/-- Bytes of ASCII characters are read back one by one. -/
theorem map_ofNat_encoded (h : ∀ c ∈ cs, IsAscii c) :
    (encoded cs).map (fun b => Char.ofNat b.toNat) = cs := by
  rw [encoded_of_isAscii h, List.map_map]
  refine (List.map_congr_left fun c hc => ?_).trans (List.map_id cs)
  exact ofNat_asciiByte (h c hc)

/-- The bytes of other characters are no ASCII. -/
theorem le_of_mem_utf8EncodeChar (h : ¬ IsAscii c) : ∀ b ∈ String.utf8EncodeChar c, 0x80 ≤ b := by
  have hlt : ¬ c.val.toNat ≤ 127 := fun hle => h (Nat.lt_succ_of_le hle)
  simp only [String.utf8EncodeChar, if_neg hlt]
  intro b hb
  rw [UInt8.le_iff_toNat_le]
  split_ifs at hb <;> simp only [List.mem_cons, List.not_mem_nil, or_false] at hb
  · rcases hb with rfl | rfl <;> rw [UInt8.toNat_ofNat'] <;> simp <;> omega
  · rcases hb with rfl | rfl | rfl <;> rw [UInt8.toNat_ofNat'] <;> simp <;> omega
  · rcases hb with rfl | rfl | rfl | rfl <;> rw [UInt8.toNat_ofNat'] <;> simp <;> omega

/-- An ASCII character that leaves a mark. -/
def IsGlyph (c : Char) : Prop := 0x21 ≤ c.toNat ∧ c.toNat < 0x7F

instance (c : Char) : Decidable (IsGlyph c) := inferInstanceAs (Decidable (_ ∧ _))

theorem IsGlyph.isAscii (h : IsGlyph c) : IsAscii c :=
  Nat.lt_trans h.2 (by decide)

theorem IsGlyph.isBlank_eq_false (h : IsGlyph c) : isBlank c = false := by
  unfold IsGlyph at h
  simp only [isBlank, Bool.or_eq_false_iff, Bool.and_eq_false_iff, decide_eq_false_iff_not,
    beq_eq_false_iff_ne]
  omega

end SensorRelay.Text
