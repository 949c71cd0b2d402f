import SensorRelay.Proofs.Wire.Fields
import SensorRelay.Wire.Codec
import Mathlib.Data.List.Induction
import Mathlib.Tactic.SplitIfs

/-!
# Messages that are read back

A message is read back from its encoding. Scalars that are left out come back as their defaults, so
of a double that equals zero only the sign is lost, and a submessage is there exactly if it was
there before it was written.
-/

namespace SensorRelay

namespace Double

/-- The zero that loses its sign. -/
def negativeZero : Double := ⟨0x8000000000000000⟩

theorem exponentField_eq (x : Double) :
    x.exponentField = x.bits.toNat / 4503599627370496 % 2048 := by
  have hmask := Nat.and_two_pow_sub_one_eq_mod (x.bits.toNat >>> 52) 11
  rw [Nat.shiftRight_eq_div_pow] at hmask
  simpa [exponentField, Nat.shiftRight_eq_div_pow] using hmask

theorem fraction_eq (x : Double) : x.fraction = x.bits.toNat % 4503599627370496 := by
  simp only [fraction, UInt64.toNat_and]
  exact Nat.and_two_pow_sub_one_eq_mod x.bits.toNat 52

theorem isZero_iff (x : Double) : x.isZero = true ↔ x = zero ∨ x = negativeZero := by
  obtain ⟨bits⟩ := x
  have hlt := bits.toNat_lt
  have hzero : (0 : UInt64).toNat = 0 := rfl
  have hsign : (0x8000000000000000 : UInt64).toNat = 9223372036854775808 := rfl
  simp only [isZero, exponentField_eq, fraction_eq, zero, negativeZero, mk.injEq, Bool.and_eq_true,
    decide_eq_true_eq, ← UInt64.toNat_inj, hzero, hsign]
  omega

theorem unsignedZero_eq (x : Double) : x.unsignedZero = if x = negativeZero then zero else x := by
  unfold unsignedZero
  have h := x.isZero_iff
  split_ifs <;> simp_all

end Double

namespace Wire

open Text

variable {α β σ : Type} {step : α → Field → Option α} {number limit depth : Nat}

/-- Reading the fields in their order takes a message from `m` to `m'`. They have numbers of the
schema and something in them that can be sent. -/
structure Carries (step : α → Field → Option α) (fs : List Field) (m m' : α) : Prop where
  numbered : ∀ f ∈ fs, (0 < f.number ∧ f.number < 16) ∧ f.payload ≠ .group
  reads : fs.foldlM step m = some m'

theorem carries_nil (m : α) : Carries step [] m m :=
  ⟨List.forall_mem_nil _, rfl⟩

theorem carries_singleton {p : Payload} {m m' : α} (hnumber : 0 < number ∧ number < 16)
    (hp : p ≠ .group) (h : step m ⟨number, p⟩ = some m') : Carries step [⟨number, p⟩] m m' where
  numbered := List.forall_mem_singleton.mpr ⟨hnumber, hp⟩
  reads := by simp [h]

namespace Carries

variable {fs gs : List Field} {m m' m'' : α}

theorem append (hfs : Carries step fs m m') (hgs : Carries step gs m' m'') :
    Carries step (fs ++ gs) m m'' where
  numbered := by
    intro f hf
    rcases List.mem_append.mp hf with hf | hf
    · exact hfs.numbered f hf
    · exact hgs.numbered f hf
  reads := by
    rw [List.foldlM_append, hfs.reads]
    exact hgs.reads

theorem isSendable (h : Carries step fs m m') (hlen : (encodeFields fs).length < UInt64.size) :
    ∀ f ∈ fs, f.IsSendable := by
  intro f hf
  obtain ⟨⟨hpos, hlt⟩, hgroup⟩ := h.numbered f hf
  refine ⟨hpos, by omega, ?_⟩
  obtain ⟨number, payload⟩ := f
  cases payload with
  | bytes content => exact Nat.lt_of_le_of_lt (length_content_le hf) hlen
  | group => exact absurd rfl hgroup
  | _ => trivial

end Carries

/-- How a value that arrives as `x` is written: not at all if it is the default, and otherwise as
one field that is read as `x`. -/
inductive Written (number : Nat) (read? : Payload → Option σ) (default : σ) :
    σ → List Field → Prop
  | left : Written number read? default default []
  | sent {p : Payload} {x : σ} (hread : read? p = some x) (hgroup : p ≠ .group) :
      Written number read? default x [⟨number, p⟩]

/-- A member that holds the default is brought to the value that was written. -/
theorem Written.carries {read? : Payload → Option σ} {default x : σ} {fs : List Field}
    (h : Written number read? default x fs) (hnumber : 0 < number ∧ number < 16) (set : σ → α)
    (hstep : ∀ p x, read? p = some x → step (set default) ⟨number, p⟩ = some (set x)) :
    Carries step fs (set default) (set x) := by
  cases h with
  | left => exact carries_nil _
  | sent hread hgroup => exact carries_singleton hnumber hgroup (hstep _ _ hread)

theorem written_text (number : Nat) (s : String) :
    Written number Payload.text? "" s (textField number s) := by
  unfold textField
  split_ifs with h
  · rw [String.isEmpty_iff.mp h]
    exact .left
  · exact .sent (readUtf8_utf8 s) (by simp)

theorem written_int32 (number : Nat) (n : Int32) :
    Written number Payload.int32? 0 n (int32Field number n) := by
  unfold int32Field
  split_ifs with h
  · rw [h]
    exact .left
  · exact .sent (by simp [Payload.int32?]) (by simp)

theorem written_int64 (number : Nat) (n : Int64) :
    Written number Payload.int64? 0 n (int64Field number n) := by
  unfold int64Field
  split_ifs with h
  · rw [h]
    exact .left
  · exact .sent (by simp [Payload.int64?]) (by simp)

theorem written_bool (number : Nat) (b : Bool) :
    Written number Payload.bool? false b (boolField number b) := by
  cases b with
  | false => exact .left
  | true => exact .sent rfl (by simp)

theorem written_double (number : Nat) (x : Double) :
    Written number Payload.double? Double.zero x.unsignedZero (doubleField number x) := by
  unfold doubleField Double.unsignedZero
  split_ifs
  · exact .left
  · exact .sent rfl (by simp)

theorem carries_textsField (hnumber : 0 < number ∧ number < 16) (set : List String → α)
    (hstep : ∀ p ss s, Payload.text? p = some s →
      step (set ss) ⟨number, p⟩ = some (set (ss ++ [s]))) (ss : List String) :
    Carries step (textsField number ss) (set []) (set ss) := by
  induction ss using List.reverseRecOn with
  | nil => exact carries_nil _
  | append_singleton ss s ih =>
    rw [textsField, List.map_append]
    exact ih.append (carries_singleton hnumber (by simp) (hstep _ _ _ (readUtf8_utf8 s)))

/-- A kind of message that is read back, and what of it arrives. Its submessages are nested so
deep. -/
def Codec.Faithful (c : Codec α) (depth : Nat) (received : α → α) : Prop :=
  ∀ {limit}, depth ≤ limit → ∀ m, (encodeFields (c.fields m)).length < UInt64.size →
    Carries (c.step limit) (c.fields m) c.empty (received m)

namespace Codec.Faithful

variable {c : Codec α} {received : α → α} {m : α}

theorem decode_encode (hc : c.Faithful depth received) (hdepth : depth ≤ nestingLimit)
    (hlen : (c.encode m).length < UInt64.size) : c.decode (c.encode m) = some (received m) := by
  have hm := hc hdepth m hlen
  unfold decode encode
  rw [readFields_encodeFields nestingLimit (hm.isSendable hlen), Option.bind_some]
  exact hm.reads

/-- A submessage is read where more nesting is left than it needs. -/
theorem merge? (hc : c.Faithful depth received) (hdepth : depth < limit)
    (hlen : (encodeFields (c.fields m)).length < UInt64.size) :
    (Payload.bytes (encodeFields (c.fields m))).merge? c.step limit c.empty =
      some (received m) := by
  cases limit with
  | zero => exact absurd hdepth (Nat.not_lt_zero _)
  | succ limit =>
    have hm := hc (Nat.le_of_lt_succ hdepth) m hlen
    simp only [Payload.merge?, readFields_encodeFields limit (hm.isSendable hlen),
      Option.bind_some]
    exact hm.reads

theorem carries_messages {c : Codec β} {received : β → β} (hc : c.Faithful depth received)
    (hdepth : depth < limit) (hnumber : 0 < number ∧ number < 16) (set : List β → α)
    (hstep : ∀ p xs x, Payload.merge? c.step limit c.empty p = some x →
      step (set xs) ⟨number, p⟩ = some (set (xs ++ [x]))) {ms : List β}
    (hlen : ∀ m ∈ ms, (encodeFields (c.fields m)).length < UInt64.size) :
    Carries step (ms.map fun m => messageField number (c.fields m)) (set [])
      (set (ms.map received)) := by
  induction ms using List.reverseRecOn with
  | nil => exact carries_nil _
  | append_singleton ms m ih =>
    obtain ⟨hms, hm⟩ := List.forall_mem_append.mp hlen
    have hmerge := hc.merge? hdepth (hm m (List.mem_singleton_self m))
    rw [List.map_append, List.map_append]
    exact (ih hms).append (carries_singleton hnumber (by simp) (hstep _ _ _ hmerge))

end Codec.Faithful

theorem length_right_lt {fs gs : List Field} {n : Nat} (h : (encodeFields (fs ++ gs)).length < n) :
    (encodeFields gs).length < n := by
  rw [encodeFields_append, List.length_append] at h
  omega

/-- The part of a message that a submessage is. -/
theorem length_submessage_lt {fs gs : List Field} {n : Nat} (h : messageField number fs ∈ gs)
    (hlen : (encodeFields gs).length < n) : (encodeFields fs).length < n :=
  Nat.lt_of_le_of_lt (length_content_le h) hlen

theorem timestamp_faithful : timestamp.Faithful 0 id := by
  intro limit _ t _
  apply Carries.append
  · apply (written_int64 1 t.seconds).carries (by decide) fun n => (⟨n, 0⟩ : Timestamp)
    intro p n hp
    simp [timestamp, hp]
  · apply (written_int32 2 t.nanos).carries (by decide) fun n => (⟨t.seconds, n⟩ : Timestamp)
    intro p n hp
    simp [timestamp, hp]

theorem sensorRegistration_faithful : sensorRegistration.Faithful 0 id := by
  intro limit _ m _
  apply Carries.append
  · apply Carries.append
    · apply (written_text 1 m.name).carries (by decide)
        fun s => (⟨s, "", []⟩ : SensorRegistration)
      intro p s hp
      simp [sensorRegistration, hp]
    · apply (written_text 2 m.location).carries (by decide)
        fun s => (⟨m.name, s, []⟩ : SensorRegistration)
      intro p s hp
      simp [sensorRegistration, hp]
  · apply carries_textsField (by decide)
      fun ss => (⟨m.name, m.location, ss⟩ : SensorRegistration)
    intro p ss s hp
    simp [sensorRegistration, hp]

theorem clientRegistration_faithful : clientRegistration.Faithful 0 id := by
  intro limit _ m _
  apply Carries.append
  · apply Carries.append
    · apply (written_text 1 m.login).carries (by decide)
        fun s => (⟨s, "", ""⟩ : ClientRegistration)
      intro p s hp
      simp [clientRegistration, hp]
    · apply (written_text 2 m.password).carries (by decide)
        fun s => (⟨m.login, s, ""⟩ : ClientRegistration)
      intro p s hp
      simp [clientRegistration, hp]
  · apply (written_text 3 m.email).carries (by decide)
      fun s => (⟨m.login, m.password, s⟩ : ClientRegistration)
    intro p s hp
    simp [clientRegistration, hp]

theorem sensorInfo_faithful : sensorInfo.Faithful 0 id := by
  intro limit _ m _
  apply Carries.append
  · apply Carries.append
    · apply Carries.append
      · apply Carries.append
        · apply (written_text 1 m.id).carries (by decide)
            fun s => (⟨s, "", "", [], 0⟩ : SensorInfo)
          intro p s hp
          simp [sensorInfo, hp]
        · apply (written_text 2 m.name).carries (by decide)
            fun s => (⟨m.id, s, "", [], 0⟩ : SensorInfo)
          intro p s hp
          simp [sensorInfo, hp]
      · apply (written_text 3 m.location).carries (by decide)
          fun s => (⟨m.id, m.name, s, [], 0⟩ : SensorInfo)
        intro p s hp
        simp [sensorInfo, hp]
    · apply carries_textsField (by decide)
        fun ss => (⟨m.id, m.name, m.location, ss, 0⟩ : SensorInfo)
      intro p ss s hp
      simp [sensorInfo, hp]
  · apply (written_int32 5 m.onlineStatus).carries (by decide)
      fun n => (⟨m.id, m.name, m.location, m.tags, n⟩ : SensorInfo)
    intro p n hp
    simp [sensorInfo, hp]

theorem historyRequest_faithful : historyRequest.Faithful 0 id := by
  intro limit _ m _
  apply Carries.append
  · apply (written_text 1 m.sensorId).carries (by decide) fun s => (⟨s, 0⟩ : HistoryRequest)
    intro p s hp
    simp [historyRequest, hp]
  · apply (written_int32 2 m.depth).carries (by decide)
      fun n => (⟨m.sensorId, n⟩ : HistoryRequest)
    intro p n hp
    simp [historyRequest, hp]

theorem subscribeRequest_faithful : subscribeRequest.Faithful 0 id := by
  intro limit _ m _
  apply Carries.append
  · apply (written_text 1 m.sensorId).carries (by decide)
      fun s => (⟨s, false⟩ : SubscribeRequest)
    intro p s hp
    simp [subscribeRequest, hp]
  · apply (written_bool 2 m.disconnect).carries (by decide)
      fun b => (⟨m.sensorId, b⟩ : SubscribeRequest)
    intro p b hp
    simp [subscribeRequest, hp]

theorem actionResult_faithful : actionResult.Faithful 0 id := by
  intro limit _ m _
  apply Carries.append
  · apply (written_int32 1 m.status).carries (by decide) fun n => (⟨n, ""⟩ : ActionResult)
    intro p n hp
    simp [actionResult, hp]
  · apply (written_text 2 m.message).carries (by decide)
      fun s => (⟨m.status, s⟩ : ActionResult)
    intro p s hp
    simp [actionResult, hp]

theorem statusChange_faithful : statusChange.Faithful 0 id := by
  intro limit _ m _
  apply Carries.append
  · apply (written_text 1 m.sensorId).carries (by decide) fun s => (⟨s, 0⟩ : StatusChange)
    intro p s hp
    simp [statusChange, hp]
  · apply (written_int32 2 m.status).carries (by decide)
      fun n => (⟨m.sensorId, n⟩ : StatusChange)
    intro p n hp
    simp [statusChange, hp]

/-- A timestamp is there if it was there, even if all of it is zero. -/
theorem written_timestamp (hdepth : 0 < limit) {t : Option Timestamp}
    (hlen : (encodeFields (timestampField number t)).length < UInt64.size) :
    Written number (mergeTimestamp limit none) none t (timestampField number t) := by
  cases t with
  | none => exact .left
  | some t =>
    have ht := length_submessage_lt (List.mem_singleton_self _) hlen
    refine .sent ?_ (by simp)
    simp only [mergeTimestamp, Option.getD_none, timestamp_faithful.merge? hdepth ht,
      Option.map_some, id_eq]

theorem measurementRequest_faithful :
    measurementRequest.Faithful 1 MeasurementRequest.transmitted := by
  intro limit hdepth m hlen
  apply Carries.append
  · apply (written_double 1 m.value).carries (by decide)
      fun x => (⟨x, none⟩ : MeasurementRequest)
    intro p x hp
    simp [measurementRequest, hp]
  · apply (written_timestamp hdepth (length_right_lt hlen)).carries (by decide)
      fun t => (⟨m.value.unsignedZero, t⟩ : MeasurementRequest)
    intro p t hp
    simp [measurementRequest, hp]

theorem measurementResponse_faithful :
    measurementResponse.Faithful 1 MeasurementResponse.transmitted := by
  intro limit hdepth m hlen
  apply Carries.append
  · apply Carries.append
    · apply (written_text 1 m.sensorId).carries (by decide)
        fun s => (⟨s, Double.zero, none⟩ : MeasurementResponse)
      intro p s hp
      simp [measurementResponse, hp]
    · apply (written_double 2 m.value).carries (by decide)
        fun x => (⟨m.sensorId, x, none⟩ : MeasurementResponse)
      intro p x hp
      simp [measurementResponse, hp]
  · apply (written_timestamp hdepth (length_right_lt hlen)).carries (by decide)
      fun t => (⟨m.sensorId, m.value.unsignedZero, t⟩ : MeasurementResponse)
    intro p t hp
    simp [measurementResponse, hp]

theorem historyResponse_faithful :
    historyResponse.Faithful 2 HistoryResponse.transmitted := by
  intro limit hdepth r hlen
  have hmessages : ∀ m ∈ r.measurements,
      (encodeFields (measurementResponse.fields m)).length < UInt64.size := by
    intro m hm
    have hmem : messageField 1 (measurementResponse.fields m) ∈ historyResponse.fields r :=
      List.mem_append_left _ (List.mem_map.mpr ⟨m, hm, rfl⟩)
    exact length_submessage_lt hmem hlen
  apply Carries.append
  · apply measurementResponse_faithful.carries_messages hdepth (by decide)
      (fun ms => (⟨ms, 0⟩ : HistoryResponse)) _ hmessages
    intro p ms m hp
    simp [historyResponse, hp]
  · apply (written_int32 2 r.sensorStatus).carries (by decide)
      fun n => (⟨r.measurements.map MeasurementResponse.transmitted, n⟩ : HistoryResponse)
    intro p n hp
    simp [historyResponse, hp]

theorem subscriptionResponse_faithful :
    subscriptionResponse.Faithful 2 (Option.map Frame.transmitted) := by
  intro limit hdepth m hlen
  cases m with
  | none => exact carries_nil _
  | some f =>
    -- a variant is one submessage, and the message before it has no variant
    cases f with
    | action r =>
      have hr := length_submessage_lt (List.mem_singleton_self _) hlen
      have hmerge := actionResult_faithful.merge? (Nat.lt_of_lt_of_le (by decide) hdepth) hr
      apply carries_singleton (by decide) (by simp)
      simp [subscriptionResponse, hmerge, Frame.transmitted]
    | measurement x =>
      have hx := length_submessage_lt (List.mem_singleton_self _) hlen
      have hmerge := measurementResponse_faithful.merge? hdepth hx
      apply carries_singleton (by decide) (by simp)
      simp [subscriptionResponse, hmerge, Frame.transmitted]
    | statusChange c =>
      have hc := length_submessage_lt (List.mem_singleton_self _) hlen
      have hmerge := statusChange_faithful.merge? (Nat.lt_of_lt_of_le (by decide) hdepth) hc
      apply carries_singleton (by decide) (by simp)
      simp [subscriptionResponse, hmerge, Frame.transmitted]

end Wire
end SensorRelay
