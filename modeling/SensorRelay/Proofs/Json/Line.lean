import SensorRelay.Proofs.Json.RoundTrip
import SensorRelay.Proofs.Uuid

/-!
# Written values as lines

No control character is left in a written value, so it stands on one line whatever its texts are.
Two values that are written alike are the same value.
-/

namespace SensorRelay.Json

open Text

/-- Nothing in a text is a control character. -/
def Printable (cs : List Char) : Prop :=
  ∀ c ∈ cs, 0x20 ≤ c.toNat

instance (cs : List Char) : Decidable (Printable cs) :=
  List.decidableBAll (fun c : Char => 0x20 ≤ c.toNat) cs

variable {cs ds : List Char}

theorem Printable.append (hcs : Printable cs) (hds : Printable ds) : Printable (cs ++ ds) := by
  intro c hc
  rcases List.mem_append.mp hc with hc | hc
  · exact hcs c hc
  · exact hds c hc

theorem Printable.cons {c : Char} (hc : 0x20 ≤ c.toNat) (hcs : Printable cs) :
    Printable (c :: cs) := by
  intro d hd
  rcases List.mem_cons.mp hd with rfl | hd
  · exact hc
  · exact hcs d hd

theorem printable_numeral (n : Nat) : Printable (numeral n).toList := by
  intro c hc
  rw [numeral, String.toList_ofList] at hc
  have hdigit := Char.isDigit_iff_toNat.mp (isDigit_toDigits n c hc)
  exact Nat.le_trans (by decide) hdigit.1

theorem printable_signedNumeral (n : Int) : Printable (signedNumeral n).toList := by
  cases n with
  | ofNat n => exact printable_numeral n
  | negSucc n =>
    rw [signedNumeral, String.toList_append]
    exact .append (by decide) (printable_numeral (n + 1))

theorem le_of_simpleEscape? {e b : UInt8} (h : simpleEscape? e = some b) : 0x20 ≤ e.toNat := by
  unfold simpleEscape? at h
  split_ifs at h with hmark hback hfeed hline hreturn htab
  · rcases hmark with rfl | rfl | rfl <;> decide
  all_goals
    subst e
    decide

/-- A control character is written by characters that are none. -/
theorem printable_escape (c : Char) : Printable (escape c) := by
  have hdigit : ∀ k < 16, 0x20 ≤ (hexDigit k).toNat := by decide
  rcases escape_cases c with ⟨e, heq, hascii, -, he⟩ | ⟨heq, -⟩ | ⟨heq, -, -, hc⟩
  · have hge := le_of_simpleEscape? he
    rw [toNat_asciiByte hascii] at hge
    rw [heq]
    exact .cons (by decide) (.cons hge (by decide))
  · rw [heq]
    apply Printable.cons (by decide)
    apply Printable.cons (by decide)
    intro d hd
    obtain ⟨k, hk, rfl⟩ := exists_hexDigit_of_mem hd
    exact hdigit k hk
  · rw [heq]
    exact .cons hc (by decide)

theorem printable_quote (s : String) : Printable (quote s) := by
  apply Printable.cons (by decide)
  apply Printable.append
  · intro d hd
    obtain ⟨c, -, hd⟩ := List.mem_flatMap.mp hd
    exact printable_escape c d hd
  · decide

theorem printable_itemChars {items : List Json} (h : ∀ j ∈ items, Printable j.chars) :
    Printable (itemChars items) := by
  induction items with
  | nil => decide
  | cons j items ih =>
    have hj := h j List.mem_cons_self
    cases items with
    | nil =>
      rw [itemChars]
      exact hj.append (by decide)
    | cons k items =>
      rw [itemChars_cons_cons]
      exact hj.append (.cons (by decide) (ih fun i hi => h i (List.mem_cons_of_mem j hi)))

theorem printable_memberChars {ms : List (String × Json)} (h : ∀ m ∈ ms, Printable m.2.chars) :
    Printable (memberChars ms) := by
  induction ms with
  | nil => decide
  | cons m ms ih =>
    obtain ⟨name, j⟩ := m
    have hname := printable_quote name
    have hj : Printable j.chars := h (name, j) List.mem_cons_self
    cases ms with
    | nil =>
      rw [memberChars]
      exact (hname.append (.cons (by decide) hj)).append (by decide)
    | cons x ms =>
      have hrest := ih fun y hy => h y (List.mem_cons_of_mem _ hy)
      rw [memberChars_cons_cons]
      exact (hname.append (.cons (by decide) hj)).append (.cons (by decide) hrest)

/-- A written value has no control character in it. -/
theorem Plain.printable {j : Json} (h : Plain j) : Printable j.chars := by
  induction h with
  | null => decide
  | bool b => cases b <;> decide
  | integer n =>
    rw [chars]
    exact printable_signedNumeral n
  | string s =>
    rw [chars]
    exact printable_quote s
  | array _ ih =>
    rw [chars]
    exact .cons (by decide) (printable_itemChars ih)
  | object _ ih =>
    rw [chars]
    exact .cons (by decide) (printable_memberChars ih)

/-- Values that are written alike are read alike. -/
theorem Plain.text_inj {j k : Json} (hj : Plain j) (hk : Plain k) : j.text = k.text ↔ j = k := by
  constructor
  · intro h
    have hread := read_text hj
    rw [h, read_text hk] at hread
    exact (Option.some.inj hread).symm
  · rintro rfl
    rfl

end SensorRelay.Json
