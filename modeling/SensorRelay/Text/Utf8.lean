/-!
# UTF-8

Texts as byte strings. Reading refuses every byte string that is not the encoding of a text.
-/

namespace SensorRelay.Text

def utf8 (s : String) : List UInt8 :=
  s.toList.flatMap String.utf8EncodeChar

def byteCount (cs : List Char) : Nat :=
  cs.foldl (fun n c => n + c.utf8Size) 0

/-- Cuts a text after so many bytes, which must not end inside a character. -/
def cutBytes : Nat → List Char → Option (List Char × List Char)
  | 0, cs => some ([], cs)
  | _ + 1, [] => none
  | n, c :: cs =>
    if c.utf8Size ≤ n then (cutBytes (n - c.utf8Size) cs).map fun p => (c :: p.1, p.2) else none

theorem append_of_cutBytes {n : Nat} {cs : List Char} {p : List Char × List Char}
    (h : cutBytes n cs = some p) : p.1 ++ p.2 = cs := by
  induction cs generalizing n p with
  | nil =>
    cases n with
    | zero =>
      obtain rfl := Option.some.inj h
      rfl
    | succ n => cases h
  | cons c cs ih =>
    cases n with
    | zero =>
      obtain rfl := Option.some.inj h
      rfl
    | succ n =>
      simp only [cutBytes] at h
      split at h
      · obtain ⟨q, hq, rfl⟩ := Option.map_eq_some_iff.1 h
        simp [ih hq]
      · simp at h

def readUtf8 (bytes : List UInt8) : Option String :=
  String.fromUTF8? bytes.toByteArray

theorem utf8_toByteArray (s : String) : (utf8 s).toByteArray = s.toByteArray := by
  conv => rhs; rw [← String.ofList_toList (s := s)]
  rfl

@[simp]
theorem readUtf8_utf8 (s : String) : readUtf8 (utf8 s) = some s := by
  have h : s.toByteArray.IsValidUTF8 := s.isValidUTF8
  simp only [readUtf8, utf8_toByteArray, String.fromUTF8?, h, ↓reduceDIte, Option.some.injEq]
  rfl

@[simp]
theorem utf8_append (s t : String) : utf8 (s ++ t) = utf8 s ++ utf8 t := by
  simp [utf8]

end SensorRelay.Text
