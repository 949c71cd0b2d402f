import SensorRelay.Proofs.Wire.RoundTrip

/-!
# Messages that are written again

A key and a length take at most ten bytes each, and every field that matters is read from two or
more. So what is read from some bytes is written in at most ten times as many, and is read back from
them, even if its fields came in another order, more than once or in pieces.
-/

namespace SensorRelay.Wire

open Text

variable {α σ : Type} {c : Codec α} {number limit : Nat}

/-- The least number of bytes that are read for a payload and its key. -/
def Payload.weight : Payload → Nat
  | .bytes content => content.length + 2
  | .group => 0
  | _ => 2

def weight : List Field → Nat
  | [] => 0
  | f :: fs => f.payload.weight + weight fs

theorem length_lt_of_readVarintBytes {width n : Nat} {bs rest : List UInt8}
    (h : readVarintBytes width bs = some (n, rest)) : rest.length < bs.length := by
  induction width generalizing bs n with
  | zero => simp [readVarintBytes] at h
  | succ width ih =>
    cases bs with
    | nil => simp [readVarintBytes] at h
    | cons b bs =>
      simp only [readVarintBytes] at h
      split_ifs at h
      · obtain ⟨-, rfl⟩ := Prod.mk.inj (Option.some.inj h)
        exact Nat.lt_succ_self _
      · obtain ⟨p, hp, heq⟩ := Option.map_eq_some_iff.mp h
        obtain ⟨-, rfl⟩ := Prod.mk.inj heq
        exact Nat.lt_succ_of_lt (ih hp)

theorem length_of_readBytes {n : Nat} {bs content rest : List UInt8}
    (h : readBytes n bs = some (content, rest)) :
    content.length = n ∧ bs.length = n + rest.length := by
  unfold readBytes at h
  split_ifs at h with hle
  obtain ⟨rfl, rfl⟩ := Prod.mk.inj (Option.some.inj h)
  rw [List.length_take, List.length_drop]
  omega

theorem length_lt_of_readKey {bs rest : List UInt8} {k : Nat × Nat}
    (h : readKey bs = some (k, rest)) : rest.length < bs.length := by
  obtain ⟨⟨key, rest'⟩, hkey, h⟩ := Option.bind_eq_some_iff.mp h
  dsimp only at h
  split_ifs at h
  obtain ⟨-, rfl⟩ := Prod.mk.inj (Option.some.inj h)
  exact length_lt_of_readVarintBytes hkey

theorem weight_le_of_readPayload {layout : Nat} {bs rest : List UInt8} {p : Payload}
    (h : readPayload layout bs = some (p, rest)) : p.weight + rest.length ≤ bs.length + 1 := by
  unfold readPayload at h
  split at h
  · obtain ⟨⟨n, rest'⟩, hn, heq⟩ := Option.map_eq_some_iff.mp h
    obtain ⟨rfl, rfl⟩ := Prod.mk.inj heq
    have hlt := length_lt_of_readVarintBytes hn
    simp only [Payload.weight]
    omega
  · obtain ⟨⟨word, rest'⟩, hword, heq⟩ := Option.map_eq_some_iff.mp h
    obtain ⟨rfl, rfl⟩ := Prod.mk.inj heq
    obtain ⟨-, hlen⟩ := length_of_readBytes hword
    simp only [Payload.weight]
    omega
  · obtain ⟨⟨n, rest'⟩, hn, h⟩ := Option.bind_eq_some_iff.mp h
    obtain ⟨⟨content, rest''⟩, hcontent, heq⟩ := Option.map_eq_some_iff.mp h
    obtain ⟨rfl, rfl⟩ := Prod.mk.inj heq
    have hlt := length_lt_of_readVarintBytes hn
    obtain ⟨hcount, hlen⟩ := length_of_readBytes hcontent
    simp only [Payload.weight]
    omega
  · obtain ⟨⟨word, rest'⟩, hword, heq⟩ := Option.map_eq_some_iff.mp h
    obtain ⟨rfl, rfl⟩ := Prod.mk.inj heq
    obtain ⟨-, hlen⟩ := length_of_readBytes hword
    simp only [Payload.weight]
    omega
  · cases h

theorem length_le_of_skipGroups {fuel : Nat} {gs : List Nat} {bs rest : List UInt8}
    (h : skipGroups limit fuel gs bs = some rest) : rest.length ≤ bs.length := by
  induction fuel generalizing gs bs with
  | zero =>
    cases gs with
    | nil => exact Nat.le_of_eq (congrArg _ (Option.some.inj h).symm)
    | cons g gs => cases h
  | succ fuel ih =>
    cases gs with
    | nil => exact Nat.le_of_eq (congrArg _ (Option.some.inj h).symm)
    | cons g gs =>
      obtain ⟨⟨⟨n, layout⟩, after⟩, hkey, h⟩ := Option.bind_eq_some_iff.mp h
      have hlt := length_lt_of_readKey hkey
      dsimp only at h
      split_ifs at h
      · exact Nat.le_trans (ih h) (Nat.le_of_lt hlt)
      · exact Nat.le_trans (ih h) (Nat.le_of_lt hlt)
      · obtain ⟨⟨p, after'⟩, hp, h⟩ := Option.bind_eq_some_iff.mp h
        have hle := weight_le_of_readPayload hp
        have hrest := ih h
        dsimp only at hrest
        omega

theorem weight_le_of_readFieldsWithin {fuel : Nat} {bs : List UInt8} {fs : List Field}
    (h : readFieldsWithin limit fuel bs = some fs) : weight fs ≤ bs.length := by
  induction fuel generalizing bs fs with
  | zero =>
    cases bs with
    | nil =>
      obtain rfl := Option.some.inj h
      exact Nat.zero_le _
    | cons b bs => cases h
  | succ fuel ih =>
    cases bs with
    | nil =>
      obtain rfl := Option.some.inj h
      exact Nat.zero_le _
    | cons b bs =>
      obtain ⟨⟨⟨n, layout⟩, after⟩, hkey, h⟩ := Option.bind_eq_some_iff.mp h
      have hlt := length_lt_of_readKey hkey
      dsimp only at h
      split_ifs at h
      · obtain ⟨after', hskip, h⟩ := Option.bind_eq_some_iff.mp h
        obtain ⟨gs, hgs, rfl⟩ := Option.map_eq_some_iff.mp h
        have hle := length_le_of_skipGroups hskip
        have hrest := ih hgs
        simp only [weight, Payload.weight] at hrest ⊢
        omega
      · obtain ⟨⟨p, after'⟩, hp, h⟩ := Option.bind_eq_some_iff.mp h
        obtain ⟨gs, hgs, rfl⟩ := Option.map_eq_some_iff.mp h
        have hle := weight_le_of_readPayload hp
        have hrest := ih hgs
        simp only [weight] at hrest ⊢
        omega

theorem utf8_of_readUtf8 {bytes : List UInt8} {s : String} (h : readUtf8 bytes = some s) :
    utf8 s = bytes := by
  unfold readUtf8 String.fromUTF8? at h
  split_ifs at h
  obtain rfl := Option.some.inj h
  exact List.toByteArray_inj.mp (utf8_toByteArray _)

theorem length_varint_le (n : UInt64) : (varint n).length ≤ 10 := by
  have h (width n : Nat) : (varintBytes width n).length ≤ width := by
    induction width generalizing n with
    | zero => exact Nat.le_refl _
    | succ width ih =>
      unfold varintBytes
      split_ifs
      · simp
      · exact Nat.succ_le_succ (ih _)
  exact h 10 n.toNat

theorem length_encode_bytes_le (number : Nat) (content : List UInt8) :
    (Field.encode ⟨number, .bytes content⟩).length ≤ content.length + 20 := by
  have hkey := length_varint_le (UInt64.ofNat (8 * number + 2))
  have hlen := length_varint_le (UInt64.ofNat content.length)
  simp only [Field.encode, Payload.encode, Payload.layout, List.length_append]
  omega

theorem length_encode_le_weight {f : Field} (h : f.payload ≠ .group) :
    f.encode.length ≤ 10 * f.payload.weight := by
  obtain ⟨number, p⟩ := f
  have hkey := length_varint_le (UInt64.ofNat (8 * number + p.layout))
  cases p with
  | varint n =>
    have hn := length_varint_le n
    simp only [Field.encode, Payload.encode, Payload.weight, List.length_append] at hkey ⊢
    omega
  | bytes content =>
    have hle := length_encode_bytes_le number content
    simp only [Payload.weight]
    omega
  | group => exact absurd rfl h
  | _ =>
    simp only [Field.encode, Payload.encode, Payload.weight, List.length_append,
      length_littleEndian] at hkey ⊢
    omega

namespace Payload

variable {p : Payload}

theorem weight_of_text? {s : String} (h : p.text? = some s) : p.weight = (utf8 s).length + 2 := by
  cases p with
  | bytes content => rw [utf8_of_readUtf8 h, weight]
  | _ => cases h

theorem weight_of_int32? {n : Int32} (h : p.int32? = some n) : p.weight = 2 := by
  cases p with
  | varint n => rfl
  | _ => cases h

theorem weight_of_int64? {n : Int64} (h : p.int64? = some n) : p.weight = 2 := by
  cases p with
  | varint n => rfl
  | _ => cases h

theorem weight_of_bool? {b : Bool} (h : p.bool? = some b) : p.weight = 2 := by
  cases p with
  | varint n => rfl
  | _ => cases h

theorem weight_of_double? {x : Double} (h : p.double? = some x) : p.weight = 2 := by
  cases p with
  | fixed64 n => rfl
  | _ => cases h

end Payload

/-- A value is written in ten bytes for each byte that it is read from. -/
theorem Written.length_le {read? : Payload → Option σ} {default x : σ} {fs : List Field} {n : Nat}
    (h : Written number read? default x fs) (hn : ∀ {p}, read? p = some x → p.weight = n) :
    (encodeFields fs).length ≤ 10 * n := by
  cases h with
  | left => exact Nat.zero_le _
  | sent hread hgroup =>
    rw [← hn hread, encodeFields_cons, List.length_append]
    exact length_encode_le_weight hgroup

theorem length_textField_le (number : Nat) {p : Payload} {s : String} (h : p.text? = some s) :
    (encodeFields (textField number s)).length ≤ 10 * p.weight := by
  rw [Payload.weight_of_text? h]
  exact (written_text number s).length_le Payload.weight_of_text?

theorem length_int32Field_le (number : Nat) {p : Payload} {n : Int32} (h : p.int32? = some n) :
    (encodeFields (int32Field number n)).length ≤ 10 * p.weight := by
  rw [Payload.weight_of_int32? h]
  exact (written_int32 number n).length_le Payload.weight_of_int32?

theorem length_int64Field_le (number : Nat) {p : Payload} {n : Int64} (h : p.int64? = some n) :
    (encodeFields (int64Field number n)).length ≤ 10 * p.weight := by
  rw [Payload.weight_of_int64? h]
  exact (written_int64 number n).length_le Payload.weight_of_int64?

theorem length_boolField_le (number : Nat) {p : Payload} {b : Bool} (h : p.bool? = some b) :
    (encodeFields (boolField number b)).length ≤ 10 * p.weight := by
  rw [Payload.weight_of_bool? h]
  exact (written_bool number b).length_le Payload.weight_of_bool?

theorem length_doubleField_le (number : Nat) {p : Payload} {x : Double} (h : p.double? = some x) :
    (encodeFields (doubleField number x)).length ≤ 10 * p.weight := by
  rw [Payload.weight_of_double? h]
  exact (written_double number x).length_le Payload.weight_of_double?

theorem length_textsField_append_le (number : Nat) (ss : List String) {p : Payload} {s : String}
    (h : p.text? = some s) : (encodeFields (textsField number (ss ++ [s]))).length ≤
      (encodeFields (textsField number ss)).length + 10 * p.weight := by
  have hle := length_encode_bytes_le number (utf8 s)
  rw [Payload.weight_of_text? h, textsField, List.map_append, encodeFields_append,
    List.length_append, List.map_singleton, encodeFields_cons, List.length_append]
  simp only [textsField, encodeFields, List.flatMap_nil, List.length_nil]
  omega

/-- The encoding of a message grows by at most ten bytes for each byte that a field is read
from. -/
structure Codec.Compact (c : Codec α) : Prop where
  empty : c.encode c.empty = []
  step : ∀ {limit m f m'}, c.step limit m f = some m' →
    (c.encode m').length ≤ (c.encode m).length + 10 * f.payload.weight

namespace Codec.Compact

variable {m m' : α}

theorem foldlM (hc : c.Compact) {fs : List Field} (h : fs.foldlM (c.step limit) m = some m') :
    (c.encode m').length ≤ (c.encode m).length + 10 * weight fs := by
  induction fs generalizing m with
  | nil =>
    obtain rfl := Option.some.inj h
    exact Nat.le_refl _
  | cons f fs ih =>
    rw [List.foldlM_cons] at h
    obtain ⟨m₁, hf, hfs⟩ := Option.bind_eq_some_iff.mp h
    have hstep := hc.step hf
    have hrest := ih hfs
    simp only [weight] at hrest ⊢
    omega

theorem length_encode_le (hc : c.Compact) {bytes : List UInt8} (h : c.decode bytes = some m) :
    (c.encode m).length ≤ 10 * bytes.length := by
  obtain ⟨fs, hfs, hm⟩ := Option.bind_eq_some_iff.mp h
  have hle := hc.foldlM hm
  have hweight := weight_le_of_readFieldsWithin hfs
  rw [hc.empty, List.length_nil] at hle
  omega

/-- There is room left for the key and the length of a submessage. -/
theorem merge? (hc : c.Compact) {p : Payload} (h : p.merge? c.step limit m = some m') :
    (c.encode m').length + 20 ≤ (c.encode m).length + 10 * p.weight := by
  cases p with
  | bytes content =>
    cases limit with
    | zero => cases h
    | succ limit =>
      obtain ⟨fs, hfs, hm⟩ := Option.bind_eq_some_iff.mp h
      have hle := hc.foldlM hm
      have hweight := weight_le_of_readFieldsWithin hfs
      simp only [Payload.weight]
      omega
  | _ => cases h

end Codec.Compact

theorem timestamp_compact : timestamp.Compact where
  empty := rfl
  step {limit t f t'} h := by
    simp only [timestamp] at h
    simp only [Codec.encode, timestamp, encodeFields_append, List.length_append]
    split at h
    · obtain ⟨n, hn, rfl⟩ := Option.map_eq_some_iff.mp h
      have hle := length_int64Field_le 1 hn
      dsimp only
      omega
    · obtain ⟨n, hn, rfl⟩ := Option.map_eq_some_iff.mp h
      have hle := length_int32Field_le 2 hn
      dsimp only
      omega
    · obtain rfl := Option.some.inj h
      omega

theorem sensorRegistration_compact : sensorRegistration.Compact where
  empty := rfl
  step {limit m f m'} h := by
    simp only [sensorRegistration] at h
    simp only [Codec.encode, sensorRegistration, encodeFields_append, List.length_append]
    split at h
    · obtain ⟨s, hs, rfl⟩ := Option.map_eq_some_iff.mp h
      have hle := length_textField_le 1 hs
      dsimp only
      omega
    · obtain ⟨s, hs, rfl⟩ := Option.map_eq_some_iff.mp h
      have hle := length_textField_le 2 hs
      dsimp only
      omega
    · obtain ⟨s, hs, rfl⟩ := Option.map_eq_some_iff.mp h
      have hle := length_textsField_append_le 3 m.tags hs
      dsimp only
      omega
    · obtain rfl := Option.some.inj h
      omega

theorem clientRegistration_compact : clientRegistration.Compact where
  empty := rfl
  step {limit m f m'} h := by
    simp only [clientRegistration] at h
    simp only [Codec.encode, clientRegistration, encodeFields_append, List.length_append]
    split at h
    · obtain ⟨s, hs, rfl⟩ := Option.map_eq_some_iff.mp h
      have hle := length_textField_le 1 hs
      dsimp only
      omega
    · obtain ⟨s, hs, rfl⟩ := Option.map_eq_some_iff.mp h
      have hle := length_textField_le 2 hs
      dsimp only
      omega
    · obtain ⟨s, hs, rfl⟩ := Option.map_eq_some_iff.mp h
      have hle := length_textField_le 3 hs
      dsimp only
      omega
    · obtain rfl := Option.some.inj h
      omega

theorem sensorInfo_compact : sensorInfo.Compact where
  empty := rfl
  step {limit m f m'} h := by
    simp only [sensorInfo] at h
    simp only [Codec.encode, sensorInfo, encodeFields_append, List.length_append]
    split at h
    · obtain ⟨s, hs, rfl⟩ := Option.map_eq_some_iff.mp h
      have hle := length_textField_le 1 hs
      dsimp only
      omega
    · obtain ⟨s, hs, rfl⟩ := Option.map_eq_some_iff.mp h
      have hle := length_textField_le 2 hs
      dsimp only
      omega
    · obtain ⟨s, hs, rfl⟩ := Option.map_eq_some_iff.mp h
      have hle := length_textField_le 3 hs
      dsimp only
      omega
    · obtain ⟨s, hs, rfl⟩ := Option.map_eq_some_iff.mp h
      have hle := length_textsField_append_le 4 m.tags hs
      dsimp only
      omega
    · obtain ⟨n, hn, rfl⟩ := Option.map_eq_some_iff.mp h
      have hle := length_int32Field_le 5 hn
      dsimp only
      omega
    · obtain rfl := Option.some.inj h
      omega

theorem historyRequest_compact : historyRequest.Compact where
  empty := rfl
  step {limit m f m'} h := by
    simp only [historyRequest] at h
    simp only [Codec.encode, historyRequest, encodeFields_append, List.length_append]
    split at h
    · obtain ⟨s, hs, rfl⟩ := Option.map_eq_some_iff.mp h
      have hle := length_textField_le 1 hs
      dsimp only
      omega
    · obtain ⟨n, hn, rfl⟩ := Option.map_eq_some_iff.mp h
      have hle := length_int32Field_le 2 hn
      dsimp only
      omega
    · obtain rfl := Option.some.inj h
      omega

theorem subscribeRequest_compact : subscribeRequest.Compact where
  empty := rfl
  step {limit m f m'} h := by
    simp only [subscribeRequest] at h
    simp only [Codec.encode, subscribeRequest, encodeFields_append, List.length_append]
    split at h
    · obtain ⟨s, hs, rfl⟩ := Option.map_eq_some_iff.mp h
      have hle := length_textField_le 1 hs
      dsimp only
      omega
    · obtain ⟨b, hb, rfl⟩ := Option.map_eq_some_iff.mp h
      have hle := length_boolField_le 2 hb
      dsimp only
      omega
    · obtain rfl := Option.some.inj h
      omega

theorem actionResult_compact : actionResult.Compact where
  empty := rfl
  step {limit m f m'} h := by
    simp only [actionResult] at h
    simp only [Codec.encode, actionResult, encodeFields_append, List.length_append]
    split at h
    · obtain ⟨n, hn, rfl⟩ := Option.map_eq_some_iff.mp h
      have hle := length_int32Field_le 1 hn
      dsimp only
      omega
    · obtain ⟨s, hs, rfl⟩ := Option.map_eq_some_iff.mp h
      have hle := length_textField_le 2 hs
      dsimp only
      omega
    · obtain rfl := Option.some.inj h
      omega

theorem statusChange_compact : statusChange.Compact where
  empty := rfl
  step {limit m f m'} h := by
    simp only [statusChange] at h
    simp only [Codec.encode, statusChange, encodeFields_append, List.length_append]
    split at h
    · obtain ⟨s, hs, rfl⟩ := Option.map_eq_some_iff.mp h
      have hle := length_textField_le 1 hs
      dsimp only
      omega
    · obtain ⟨n, hn, rfl⟩ := Option.map_eq_some_iff.mp h
      have hle := length_int32Field_le 2 hn
      dsimp only
      omega
    · obtain rfl := Option.some.inj h
      omega

/-- A submessage is written with a key and a length. -/
theorem Codec.Compact.length_messageField_le {c : Codec α} (hc : c.Compact) (number : Nat)
    {p : Payload} {m m' : α} (h : p.merge? c.step limit m = some m') :
    (encodeFields [messageField number (c.fields m')]).length ≤
      (c.encode m).length + 10 * p.weight := by
  have hmerge := hc.merge? h
  have hle := length_encode_bytes_le number (encodeFields (c.fields m'))
  rw [encodeFields_cons, List.length_append]
  simp only [Codec.encode] at hmerge ⊢
  simp only [messageField, encodeFields, List.flatMap_nil, List.length_nil] at hmerge hle ⊢
  omega

/-- A submessage is part of the message. -/
theorem length_fields_le (number : Nat) (fs : List Field) :
    (encodeFields fs).length ≤ (encodeFields [messageField number fs]).length :=
  length_content_le (List.mem_singleton_self _)

theorem length_timestampField_le (number : Nat) {p : Payload} {t t' : Option Timestamp}
    (h : mergeTimestamp limit t p = some t') :
    (encodeFields (timestampField number t')).length ≤
      (encodeFields (timestampField number t)).length + 10 * p.weight := by
  obtain ⟨x, hx, rfl⟩ := Option.map_eq_some_iff.mp h
  have hle := timestamp_compact.length_messageField_le number hx
  cases t with
  | none => exact hle
  | some t =>
    have hpart := length_fields_le number (timestamp.fields t)
    simp only [Option.getD_some, Codec.encode, timestampField] at hle hpart ⊢
    omega

theorem measurementRequest_compact : measurementRequest.Compact where
  empty := rfl
  step {limit m f m'} h := by
    simp only [measurementRequest] at h
    simp only [Codec.encode, measurementRequest, encodeFields_append, List.length_append]
    split at h
    · obtain ⟨x, hx, rfl⟩ := Option.map_eq_some_iff.mp h
      have hle := length_doubleField_le 1 hx
      dsimp only
      omega
    · obtain ⟨t, ht, rfl⟩ := Option.map_eq_some_iff.mp h
      have hle := length_timestampField_le 2 ht
      dsimp only
      omega
    · obtain rfl := Option.some.inj h
      omega

theorem measurementResponse_compact : measurementResponse.Compact where
  empty := rfl
  step {limit m f m'} h := by
    simp only [measurementResponse] at h
    simp only [Codec.encode, measurementResponse, encodeFields_append, List.length_append]
    split at h
    · obtain ⟨s, hs, rfl⟩ := Option.map_eq_some_iff.mp h
      have hle := length_textField_le 1 hs
      dsimp only
      omega
    · obtain ⟨x, hx, rfl⟩ := Option.map_eq_some_iff.mp h
      have hle := length_doubleField_le 2 hx
      dsimp only
      omega
    · obtain ⟨t, ht, rfl⟩ := Option.map_eq_some_iff.mp h
      have hle := length_timestampField_le 3 ht
      dsimp only
      omega
    · obtain rfl := Option.some.inj h
      omega

theorem historyResponse_compact : historyResponse.Compact where
  empty := rfl
  step {limit r f r'} h := by
    simp only [historyResponse] at h
    simp only [Codec.encode, historyResponse, encodeFields_append, List.length_append]
    split at h
    · obtain ⟨x, hx, rfl⟩ := Option.map_eq_some_iff.mp h
      have hle := measurementResponse_compact.length_messageField_le 1 hx
      rw [measurementResponse_compact.empty, List.length_nil, Nat.zero_add] at hle
      simp only [List.map_append, List.map_singleton, encodeFields_append, List.length_append]
      omega
    · obtain ⟨n, hn, rfl⟩ := Option.map_eq_some_iff.mp h
      have hle := length_int32Field_le 2 hn
      dsimp only
      omega
    · obtain rfl := Option.some.inj h
      omega

theorem subscriptionResponse_compact : subscriptionResponse.Compact where
  empty := rfl
  step {limit m f m'} h := by
    simp only [subscriptionResponse] at h
    split at h
    · obtain ⟨r, hr, rfl⟩ := Option.map_eq_some_iff.mp h
      apply Nat.le_trans (actionResult_compact.length_messageField_le 1 hr)
      apply Nat.add_le_add_right
      split
      · exact length_fields_le 1 _
      · exact Nat.zero_le _
    · obtain ⟨x, hx, rfl⟩ := Option.map_eq_some_iff.mp h
      apply Nat.le_trans (measurementResponse_compact.length_messageField_le 2 hx)
      apply Nat.add_le_add_right
      split
      · exact length_fields_le 2 _
      · exact Nat.zero_le _
    · obtain ⟨c, hc, rfl⟩ := Option.map_eq_some_iff.mp h
      apply Nat.le_trans (statusChange_compact.length_messageField_le 3 hc)
      apply Nat.add_le_add_right
      split
      · exact length_fields_le 3 _
      · exact Nat.zero_le _
    · obtain rfl := Option.some.inj h
      exact Nat.le_add_right _ _

/-- What arrives of a message is what is read from its encoding, and so it is for what was read from
any bytes. A message has fewer bytes than a sixty-four bit length can count. -/
structure Codec.RoundTrips (c : Codec α) (received : α → α) : Prop where
  written : ∀ m, (c.encode m).length < UInt64.size → c.decode (c.encode m) = some (received m)
  rewritten : ∀ bytes m, 10 * bytes.length < UInt64.size → c.decode bytes = some m →
    c.decode (c.encode m) = some (received m)

theorem Codec.Faithful.roundTrips {depth : Nat} {received : α → α}
    (hc : c.Faithful depth received) (hdepth : depth ≤ nestingLimit) (hsize : c.Compact) :
    c.RoundTrips received where
  written _ hlen := hc.decode_encode hdepth hlen
  rewritten _ _ hbytes hm :=
    hc.decode_encode hdepth (Nat.lt_of_le_of_lt (hsize.length_encode_le hm) hbytes)

/-- Every message arrives as it was sent, but for the sign of a zero. -/
theorem messages_round_trip :
    subscriptionResponse.RoundTrips (Option.map Frame.transmitted) ∧
    measurementRequest.RoundTrips MeasurementRequest.transmitted ∧
    sensorInfo.RoundTrips id ∧
    subscribeRequest.RoundTrips id ∧
    historyRequest.RoundTrips id ∧
    historyResponse.RoundTrips HistoryResponse.transmitted ∧
    sensorRegistration.RoundTrips id ∧
    clientRegistration.RoundTrips id ∧
    ∀ x : Double, x.unsignedZero = if x = .negativeZero then .zero else x := by
  refine ⟨?_, ?_, ?_, ?_, ?_, ?_, ?_, ?_, Double.unsignedZero_eq⟩
  · exact subscriptionResponse_faithful.roundTrips (by decide) subscriptionResponse_compact
  · exact measurementRequest_faithful.roundTrips (by decide) measurementRequest_compact
  · exact sensorInfo_faithful.roundTrips (by decide) sensorInfo_compact
  · exact subscribeRequest_faithful.roundTrips (by decide) subscribeRequest_compact
  · exact historyRequest_faithful.roundTrips (by decide) historyRequest_compact
  · exact historyResponse_faithful.roundTrips (by decide) historyResponse_compact
  · exact sensorRegistration_faithful.roundTrips (by decide) sensorRegistration_compact
  · exact clientRegistration_faithful.roundTrips (by decide) clientRegistration_compact

/-- An empty submessage is still there, and a NaN keeps its bits. -/
example : historyResponse.decode (historyResponse.encode
    ⟨[⟨"", .negativeZero, some ⟨0, 0⟩⟩, ⟨"", ⟨0x7FF8000000000001⟩, none⟩], -3⟩) =
      some ⟨[⟨"", .zero, some ⟨0, 0⟩⟩, ⟨"", ⟨0x7FF8000000000001⟩, none⟩], -3⟩ := by
  decide

/-- A timestamp in two pieces around a group that is skipped. -/
example : measurementRequest.decode [0x12, 2, 0x08, 5, 0x2B, 0x08, 1, 0x2C, 0x12, 2, 0x10, 7] =
    some ⟨.zero, some ⟨5, 7⟩⟩ := by
  decide

end SensorRelay.Wire
