import SensorRelay.Message
import SensorRelay.Text.Utf8
import SensorRelay.Wire.Field

/-!
# Encoded messages

Each message writes its fields in the order of their numbers and leaves out a scalar with its
default value; a double that equals zero is left out whatever its sign. Reading starts from the
default message and merges the fields one by one: the last scalar wins, repeated submessages merge,
another variant replaces, and an unknown field is skipped.
-/

namespace SensorRelay.Wire

open Text

def textField (number : Nat) (s : String) : List Field :=
  if s.isEmpty then [] else [⟨number, .bytes (utf8 s)⟩]

def textsField (number : Nat) (ss : List String) : List Field :=
  ss.map fun s => ⟨number, .bytes (utf8 s)⟩

def int32Field (number : Nat) (n : Int32) : List Field :=
  if n = 0 then [] else [⟨number, .varint n.toInt64.toUInt64⟩]

def int64Field (number : Nat) (n : Int64) : List Field :=
  if n = 0 then [] else [⟨number, .varint n.toUInt64⟩]

def boolField (number : Nat) (b : Bool) : List Field :=
  if b then [⟨number, .varint 1⟩] else []

def doubleField (number : Nat) (x : Double) : List Field :=
  if x.isZero then [] else [⟨number, .fixed64 x.bits⟩]

def messageField (number : Nat) (fields : List Field) : Field :=
  ⟨number, .bytes (encodeFields fields)⟩

namespace Payload

def text? : Payload → Option String
  | .bytes content => readUtf8 content
  | _ => none

def int32? : Payload → Option Int32
  | .varint n => some n.toInt64.toInt32
  | _ => none

def int64? : Payload → Option Int64
  | .varint n => some n.toInt64
  | _ => none

def bool? : Payload → Option Bool
  | .varint n => some (n != 0)
  | _ => none

def double? : Payload → Option Double
  | .fixed64 n => some ⟨n⟩
  | _ => none

/-- Merges the fields of a submessage into a value, one level deeper. -/
def merge? (step : Nat → α → Field → Option α) (limit : Nat) (start : α) :
    Payload → Option α
  | .bytes content =>
    match limit with
    | 0 => none
    | limit + 1 => (readFields limit content).bind fun fs => fs.foldlM (step limit) start
  | _ => none

end Payload

structure Codec (α : Type) where
  empty : α
  fields : α → List Field
  step : Nat → α → Field → Option α

namespace Codec

variable {α : Type} (c : Codec α)

def encode (m : α) : List UInt8 :=
  encodeFields (c.fields m)

def size (m : α) : Nat :=
  (c.fields m).foldl (fun n f => n + f.encode.length) 0

theorem size_eq_length_encode (m : α) : c.size m = (c.encode m).length := by
  have h (fs : List Field) (n : Nat) :
      fs.foldl (fun n f => n + f.encode.length) n = n + (encodeFields fs).length := by
    induction fs generalizing n with
    | nil => simp [encodeFields]
    | cons f fs ih => simp [ih, encodeFields, Nat.add_assoc]
  simpa [size, encode] using h (c.fields m) 0

def decode (bs : List UInt8) : Option α :=
  (readFields nestingLimit bs).bind fun fs => fs.foldlM (c.step nestingLimit) c.empty

end Codec

def timestamp : Codec Timestamp where
  empty := ⟨0, 0⟩
  fields t := int64Field 1 t.seconds ++ int32Field 2 t.nanos
  step _ t f :=
    match f.number with
    | 1 => f.payload.int64?.map fun n => { t with seconds := n }
    | 2 => f.payload.int32?.map fun n => { t with nanos := n }
    | _ => some t

def timestampField (number : Nat) : Option Timestamp → List Field
  | none => []
  | some t => [messageField number (timestamp.fields t)]

def mergeTimestamp (limit : Nat) (t : Option Timestamp) (p : Payload) : Option (Option Timestamp) :=
  (p.merge? timestamp.step limit (t.getD timestamp.empty)).map some

def sensorRegistration : Codec SensorRegistration where
  empty := ⟨"", "", []⟩
  fields m := textField 1 m.name ++ textField 2 m.location ++ textsField 3 m.tags
  step _ m f :=
    match f.number with
    | 1 => f.payload.text?.map fun s => { m with name := s }
    | 2 => f.payload.text?.map fun s => { m with location := s }
    | 3 => f.payload.text?.map fun s => { m with tags := m.tags ++ [s] }
    | _ => some m

def clientRegistration : Codec ClientRegistration where
  empty := ⟨"", "", ""⟩
  fields m := textField 1 m.login ++ textField 2 m.password ++ textField 3 m.email
  step _ m f :=
    match f.number with
    | 1 => f.payload.text?.map fun s => { m with login := s }
    | 2 => f.payload.text?.map fun s => { m with password := s }
    | 3 => f.payload.text?.map fun s => { m with email := s }
    | _ => some m

def measurementRequest : Codec MeasurementRequest where
  empty := ⟨Double.zero, none⟩
  fields m := doubleField 1 m.value ++ timestampField 2 m.madeAt
  step limit m f :=
    match f.number with
    | 1 => f.payload.double?.map fun x => { m with value := x }
    | 2 => (mergeTimestamp limit m.madeAt f.payload).map fun t => { m with madeAt := t }
    | _ => some m

def measurementResponse : Codec MeasurementResponse where
  empty := ⟨"", Double.zero, none⟩
  fields m := textField 1 m.sensorId ++ doubleField 2 m.value ++ timestampField 3 m.madeAt
  step limit m f :=
    match f.number with
    | 1 => f.payload.text?.map fun s => { m with sensorId := s }
    | 2 => f.payload.double?.map fun x => { m with value := x }
    | 3 => (mergeTimestamp limit m.madeAt f.payload).map fun t => { m with madeAt := t }
    | _ => some m

def sensorInfo : Codec SensorInfo where
  empty := ⟨"", "", "", [], 0⟩
  fields m :=
    textField 1 m.id ++ textField 2 m.name ++ textField 3 m.location ++ textsField 4 m.tags ++
      int32Field 5 m.onlineStatus
  step _ m f :=
    match f.number with
    | 1 => f.payload.text?.map fun s => { m with id := s }
    | 2 => f.payload.text?.map fun s => { m with name := s }
    | 3 => f.payload.text?.map fun s => { m with location := s }
    | 4 => f.payload.text?.map fun s => { m with tags := m.tags ++ [s] }
    | 5 => f.payload.int32?.map fun n => { m with onlineStatus := n }
    | _ => some m

def historyRequest : Codec HistoryRequest where
  empty := ⟨"", 0⟩
  fields m := textField 1 m.sensorId ++ int32Field 2 m.depth
  step _ m f :=
    match f.number with
    | 1 => f.payload.text?.map fun s => { m with sensorId := s }
    | 2 => f.payload.int32?.map fun n => { m with depth := n }
    | _ => some m

def historyResponse : Codec HistoryResponse where
  empty := ⟨[], 0⟩
  fields m :=
    (m.measurements.map fun x => messageField 1 (measurementResponse.fields x)) ++
      int32Field 2 m.sensorStatus
  step limit m f :=
    match f.number with
    | 1 =>
      (f.payload.merge? measurementResponse.step limit measurementResponse.empty).map fun x =>
        { m with measurements := m.measurements ++ [x] }
    | 2 => f.payload.int32?.map fun n => { m with sensorStatus := n }
    | _ => some m

def subscribeRequest : Codec SubscribeRequest where
  empty := ⟨"", false⟩
  fields m := textField 1 m.sensorId ++ boolField 2 m.disconnect
  step _ m f :=
    match f.number with
    | 1 => f.payload.text?.map fun s => { m with sensorId := s }
    | 2 => f.payload.bool?.map fun b => { m with disconnect := b }
    | _ => some m

def actionResult : Codec ActionResult where
  empty := ⟨0, ""⟩
  fields m := int32Field 1 m.status ++ textField 2 m.message
  step _ m f :=
    match f.number with
    | 1 => f.payload.int32?.map fun n => { m with status := n }
    | 2 => f.payload.text?.map fun s => { m with message := s }
    | _ => some m

def statusChange : Codec StatusChange where
  empty := ⟨"", 0⟩
  fields m := textField 1 m.sensorId ++ int32Field 2 m.status
  step _ m f :=
    match f.number with
    | 1 => f.payload.text?.map fun s => { m with sensorId := s }
    | 2 => f.payload.int32?.map fun n => { m with status := n }
    | _ => some m

def frameFields : Frame → List Field
  | .action r => [messageField 1 (actionResult.fields r)]
  | .measurement m => [messageField 2 (measurementResponse.fields m)]
  | .statusChange c => [messageField 3 (statusChange.fields c)]

/-- A present variant is written even if it is empty. -/
def subscriptionResponse : Codec SubscriptionResponse where
  empty := none
  fields m := (m.map frameFields).getD []
  step limit m f :=
    match f.number with
    | 1 =>
      let start := match m with | some (.action r) => r | _ => actionResult.empty
      (f.payload.merge? actionResult.step limit start).map fun r => some (.action r)
    | 2 =>
      let start := match m with | some (.measurement x) => x | _ => measurementResponse.empty
      (f.payload.merge? measurementResponse.step limit start).map fun x => some (.measurement x)
    | 3 =>
      let start := match m with | some (.statusChange c) => c | _ => statusChange.empty
      (f.payload.merge? statusChange.step limit start).map fun c => some (.statusChange c)
    | _ => some m

end SensorRelay.Wire
