import SensorRelay.Wire.Field

/-!
# Reading fields back

A sequence of fields is read back from its encoding. Two things are asked of it: a key must have
room for the field's number, and a length for the number of bytes.
-/

namespace SensorRelay.Wire

theorem length_littleEndian (width n : Nat) : (littleEndian width n).length = width := by
  induction width generalizing n with
  | zero => rfl
  | succ width ih => simp [littleEndian, ih]

theorem readLittleEndian_littleEndian {width n : Nat} (h : n < Nat.pow 256 width) :
    readLittleEndian (littleEndian width n) = n := by
  induction width generalizing n with
  | zero =>
    have hn : n < 1 := h
    simp only [littleEndian, readLittleEndian]
    omega
  | succ width ih =>
    have hq : n / 256 < Nat.pow 256 width := by
      have hpow : Nat.pow 256 (width + 1) = Nat.pow 256 width * 256 := rfl
      omega
    have hb : (UInt8.ofNat (n % 256)).toNat = n % 256 := by
      rw [UInt8.toNat_ofNat']
      omega
    rw [littleEndian, readLittleEndian, hb, ih hq]
    omega

theorem readBytes_append {n : Nat} {content : List UInt8} (h : content.length = n)
    (rest : List UInt8) : readBytes n (content ++ rest) = some (content, rest) := by
  subst h
  simp [readBytes]

theorem varint_ne_nil (n : UInt64) : varint n ≠ [] := by
  unfold varint varintBytes
  split <;> simp

theorem toNat_ofNat_of_lt {n : Nat} (h : n < UInt64.size) : (UInt64.ofNat n).toNat = n := by
  rw [UInt64.toNat_ofNat']
  exact Nat.mod_eq_of_lt h

/-- Can this stand behind a key? Groups are only ever skipped. -/
def Payload.IsSendable : Payload → Prop
  | .bytes content => content.length < UInt64.size
  | .group => False
  | _ => True

/-- The number of a field is a word of twenty-nine bits, and not zero. -/
structure Field.IsSendable (f : Field) : Prop where
  number_pos : 0 < f.number
  number_lt : f.number < 536870912
  payload : f.payload.IsSendable

theorem Payload.layout_lt (p : Payload) : p.layout < 6 := by
  cases p <;> simp [Payload.layout]

theorem Payload.IsSendable.layout_ne {p : Payload} (h : p.IsSendable) : p.layout ≠ 3 := by
  cases p with
  | group => exact h.elim
  | _ => simp [Payload.layout]

theorem readKey_varint {number layout : Nat} (hpos : 0 < number) (hlt : number < 536870912)
    (hlayout : layout < 6) (rest : List UInt8) :
    readKey (varint (UInt64.ofNat (8 * number + layout)) ++ rest) =
      some ((number, layout), rest) := by
  have hsize : UInt32.size = 4294967296 := rfl
  have hword : (UInt64.ofNat (8 * number + layout)).toNat = 8 * number + layout := by
    apply toNat_ofNat_of_lt
    have : UInt64.size = 18446744073709551616 := rfl
    omega
  have hnumber : (8 * number + layout) / 8 = number := by omega
  have hmod : (8 * number + layout) % 8 = layout := by omega
  simp only [readKey, readVarint_varint, hword, hnumber, hmod, bind, Option.bind]
  rw [if_pos]
  omega

theorem readPayload_encode {p : Payload} (h : p.IsSendable) (rest : List UInt8) :
    readPayload p.layout (p.encode ++ rest) = some (p, rest) := by
  cases p with
  | varint n => simp [Payload.layout, Payload.encode, readPayload]
  | fixed64 n =>
    have hread : readLittleEndian (littleEndian 8 n.toNat) = n.toNat :=
      readLittleEndian_littleEndian n.toNat_lt
    simp [Payload.layout, Payload.encode, readPayload, hread,
      readBytes_append (length_littleEndian 8 n.toNat)]
  | bytes content =>
    have hlen : (UInt64.ofNat content.length).toNat = content.length := toNat_ofNat_of_lt h
    simp [Payload.layout, Payload.encode, readPayload, hlen, readBytes_append rfl]
  | group => exact h.elim
  | fixed32 n =>
    have hread : readLittleEndian (littleEndian 4 n.toNat) = n.toNat :=
      readLittleEndian_littleEndian n.toNat_lt
    simp [Payload.layout, Payload.encode, readPayload, hread,
      readBytes_append (length_littleEndian 4 n.toNat)]

theorem Field.encode_ne_nil (f : Field) : f.encode ≠ [] := by
  intro h
  exact varint_ne_nil _ (List.append_eq_nil_iff.mp h).1

theorem encodeFields_cons (f : Field) (fs : List Field) :
    encodeFields (f :: fs) = f.encode ++ encodeFields fs := rfl

theorem encodeFields_append (fs gs : List Field) :
    encodeFields (fs ++ gs) = encodeFields fs ++ encodeFields gs := by
  simp [encodeFields]

theorem length_le_length_encodeFields (fs : List Field) :
    fs.length ≤ (encodeFields fs).length := by
  induction fs with
  | nil => exact Nat.zero_le _
  | cons f fs ih =>
    have hf : 0 < f.encode.length := List.length_pos_iff.mpr f.encode_ne_nil
    rw [encodeFields_cons, List.length_cons, List.length_append]
    omega

/-- The encoding of a field is part of the whole. -/
theorem length_encode_le {f : Field} {fs : List Field} (h : f ∈ fs) :
    f.encode.length ≤ (encodeFields fs).length := by
  induction fs with
  | nil => cases h
  | cons g fs ih =>
    rw [encodeFields_cons, List.length_append]
    rcases List.mem_cons.mp h with rfl | h
    · omega
    · have := ih h
      omega

theorem length_content_le {number : Nat} {content : List UInt8} {fs : List Field}
    (h : ⟨number, .bytes content⟩ ∈ fs) : content.length ≤ (encodeFields fs).length := by
  have hle := length_encode_le h
  simp only [Field.encode, Payload.encode, List.length_append] at hle
  omega

theorem readFieldsWithin_encodeFields (limit : Nat) {fs : List Field}
    (hfs : ∀ f ∈ fs, f.IsSendable) {fuel : Nat} (hfuel : fs.length ≤ fuel) :
    readFieldsWithin limit fuel (encodeFields fs) = some fs := by
  induction fs generalizing fuel with
  | nil => cases fuel <;> rfl
  | cons f fs ih =>
    obtain ⟨hf, hrest⟩ := List.forall_mem_cons.mp hfs
    cases fuel with
    | zero => simp at hfuel
    | succ fuel =>
      have hread := ih hrest (Nat.le_of_succ_le_succ hfuel)
      have hkey := readKey_varint hf.number_pos hf.number_lt f.payload.layout_lt
        (f.payload.encode ++ encodeFields fs)
      rw [encodeFields_cons, Field.encode, List.append_assoc]
      -- the reader looks at the first byte only to see that there is one
      obtain ⟨b, bs, hb⟩ := List.exists_cons_of_ne_nil
        (varint_ne_nil (UInt64.ofNat (8 * f.number + f.payload.layout)))
      rw [hb, List.cons_append] at hkey ⊢
      simp only [readFieldsWithin, hkey, bind, Option.bind, hf.payload.layout_ne, if_false,
        readPayload_encode hf.payload, hread, Option.map_some]

/-- Fields are read back from their encoding, whatever nesting is left. -/
theorem readFields_encodeFields (limit : Nat) {fs : List Field}
    (hfs : ∀ f ∈ fs, f.IsSendable) : readFields limit (encodeFields fs) = some fs :=
  readFieldsWithin_encodeFields limit hfs (length_le_length_encodeFields fs)

end SensorRelay.Wire
