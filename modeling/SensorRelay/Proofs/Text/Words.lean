import SensorRelay.Text.Blank

/-!
# Words of a line

A line is white space and words, and no two words stand side by side. Every line is laid out from
exactly one sequence of words, which are its maximal runs of other characters than white space.
-/

namespace SensorRelay.Text

/-- Is some text a single word? -/
structure IsWord (w : String) : Prop where
  ne_nil : w.toList ≠ []
  isBlank_eq_false : ∀ c ∈ w.toList, isBlank c = false

instance (w : String) : Decidable (IsWord w) :=
  decidable_of_iff (w.toList ≠ [] ∧ w.toList.any isBlank = false)
    ⟨fun h => ⟨h.1, by simpa using h.2⟩, fun h => ⟨h.1, by simpa using h.2⟩⟩

/-- A word ends at the end of its line or before white space. -/
def EndsWord (rest : List Char) : Prop :=
  ∀ c ∈ rest.head?, isBlank c = true

/-- Some words with white space around them, and between any two of them. -/
inductive LaidOut : List Char → List String → Prop
  | nil : LaidOut [] []
  | blank {c : Char} {cs : List Char} {ws : List String} :
      isBlank c = true → LaidOut cs ws → LaidOut (c :: cs) ws
  | word {w : String} {cs : List Char} {ws : List String} :
      IsWord w → EndsWord cs → LaidOut cs ws → LaidOut (w.toList ++ cs) (w :: ws)

variable {cs : List Char} {ws ws' : List String} {w line line' : String}

/-- The words of a run of characters. -/
def wordsOf (cs : List Char) : List String :=
  ((cs.splitOnP isBlank).filter (· ≠ [])).map String.ofList

theorem wordsOf_blank {c : Char} (hc : isBlank c = true) (cs : List Char) :
    wordsOf (c :: cs) = wordsOf cs := by
  rw [wordsOf, List.splitOnP_cons_eq_if_modifyHead, if_pos hc, List.filter_cons_of_neg (by simp)]
  rfl

theorem wordsOf_append (hw : IsWord w) (hcs : EndsWord cs) :
    wordsOf (w.toList ++ cs) = w :: wordsOf cs := by
  have hne := hw.ne_nil
  cases cs with
  | nil =>
    rw [List.append_nil, wordsOf, List.splitOnP_eq_singleton hw.isBlank_eq_false,
      List.filter_cons_of_pos (by simpa using hne), List.map_cons, String.ofList_toList]
    rfl
  | cons c cs =>
    have hc : isBlank c = true := hcs c rfl
    rw [wordsOf_blank hc, wordsOf,
      List.splitOnP_append_cons_of_forall_mem hw.isBlank_eq_false c hc,
      List.filter_cons_of_pos (by simpa using hne), List.map_cons, String.ofList_toList]
    rfl

/-- There is only one way to read the words of a line. -/
theorem LaidOut.eq_wordsOf (h : LaidOut cs ws) : ws = wordsOf cs := by
  induction h with
  | nil => rfl
  | blank hc _ ih => rw [wordsOf_blank hc, ih]
  | word hw hcs _ ih => rw [wordsOf_append hw hcs, ih]

theorem isWord_singleton {c : Char} (hc : isBlank c = false) : IsWord (String.ofList [c]) where
  ne_nil := by simp
  isBlank_eq_false d hd := by
    obtain rfl : d = c := by simpa using hd
    exact hc

theorem IsWord.cons {c : Char} (hc : isBlank c = false) (hw : IsWord w) :
    IsWord (String.ofList (c :: w.toList)) where
  ne_nil := by simp
  isBlank_eq_false d hd := by
    rw [String.toList_ofList] at hd
    rcases List.mem_cons.mp hd with rfl | hd
    · exact hc
    · exact hw.isBlank_eq_false d hd

/-- A character that is not white space begins a word or belongs to the one that follows it. -/
theorem exists_laidOut (cs : List Char) : ∃ ws, LaidOut cs ws := by
  induction cs with
  | nil => exact ⟨[], .nil⟩
  | cons c cs ih =>
    obtain ⟨ws, h⟩ := ih
    cases hc : isBlank c with
    | true => exact ⟨ws, .blank hc h⟩
    | false =>
      have hone := isWord_singleton hc
      cases h with
      | nil =>
        have hends : EndsWord [] := by rintro d ⟨⟩
        have hlaid := LaidOut.nil.word hone hends
        rw [String.toList_ofList] at hlaid
        exact ⟨_, hlaid⟩
      | @blank b cs ws hb h =>
        have hends : EndsWord (b :: cs) := by
          rintro d ⟨⟩
          exact hb
        have hlaid := (h.blank hb).word hone hends
        rw [String.toList_ofList] at hlaid
        exact ⟨_, hlaid⟩
      | word hw hcs h =>
        have hlaid := h.word (hw.cons hc) hcs
        rw [String.toList_ofList] at hlaid
        exact ⟨_, hlaid⟩

theorem laidOut_iff : LaidOut cs ws ↔ ws = wordsOf cs := by
  refine ⟨LaidOut.eq_wordsOf, ?_⟩
  rintro rfl
  obtain ⟨ws, h⟩ := exists_laidOut cs
  rwa [← h.eq_wordsOf]

theorem laidOut_words (line : String) : LaidOut line.toList (words line) :=
  laidOut_iff.mpr rfl

theorem words_of_laidOut (h : LaidOut line.toList ws) : words line = ws :=
  (laidOut_iff.mp h).symm

theorem LaidOut.isWord (h : LaidOut cs ws) : ∀ w ∈ ws, IsWord w := by
  induction h with
  | nil => exact fun w hw => nomatch hw
  | blank _ _ ih => exact ih
  | word hword _ _ ih =>
    intro w hw
    rcases List.mem_cons.mp hw with rfl | hw
    · exact hword
    · exact ih w hw

theorem isWord_of_mem_words (h : w ∈ words line) : IsWord w :=
  (laidOut_words line).isWord w h

def IsGap (gap : List Char) : Prop :=
  ∀ c ∈ gap, isBlank c = true

theorem LaidOut.gap {gap : List Char} (hgap : IsGap gap) (h : LaidOut cs ws) :
    LaidOut (gap ++ cs) ws := by
  induction gap with
  | nil => exact h
  | cons c gap ih =>
    exact (ih fun d hd => hgap d (List.mem_cons_of_mem c hd)).blank (hgap c List.mem_cons_self)

/-- Words in order, each with the white space after it. -/
def layOut (ps : List (String × List Char)) : List Char :=
  ps.flatMap fun p => p.1.toList ++ p.2

/-- White space may be missing at the two ends of a line only. -/
theorem laidOut_layOut {start : List Char} {ps : List (String × List Char)} (hstart : IsGap start)
    (hwords : ∀ p ∈ ps, IsWord p.1) (hgaps : ∀ p ∈ ps, IsGap p.2)
    (hinner : ∀ p ∈ ps.dropLast, p.2 ≠ []) :
    LaidOut (start ++ layOut ps) (ps.map Prod.fst) := by
  refine LaidOut.gap hstart ?_
  induction ps with
  | nil => exact .nil
  | cons p ps ih =>
    have hrest := ih (fun q hq => hwords q (List.mem_cons_of_mem p hq))
      (fun q hq => hgaps q (List.mem_cons_of_mem p hq)) fun q hq => by
        refine hinner q ?_
        rw [List.dropLast_cons_of_ne_nil (List.ne_nil_of_mem (List.dropLast_subset _ hq))]
        exact List.mem_cons_of_mem p hq
    have hgap := hgaps p List.mem_cons_self
    rw [layOut, List.flatMap_cons, List.append_assoc]
    refine .word (hwords p List.mem_cons_self) ?_ (.gap hgap hrest)
    cases hp : p.2 with
    | cons c gap =>
      rintro d ⟨⟩
      exact hgap c (by simp [hp])
    | nil =>
      cases ps with
      | nil => rintro d ⟨⟩
      | cons q ps => exact absurd hp (hinner p (by simp))

end SensorRelay.Text
