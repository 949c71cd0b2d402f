import SensorRelay.Wire.Varint

/-!
# Fields

A message is a sequence of numbered fields. A key holds the number and one of six layouts; groups
are an old layout that is skipped. The nesting of groups is limited, and so is that of messages.
-/

namespace SensorRelay.Wire

inductive Payload
  | varint (n : UInt64)
  | fixed64 (n : UInt64)
  | bytes (content : List UInt8)
  | group
  | fixed32 (n : UInt32)
deriving DecidableEq, Repr

structure Field where
  number : Nat
  payload : Payload
deriving DecidableEq, Repr

/-- How deep messages and groups may be nested. -/
def nestingLimit : Nat := 100

/-- The bytes of `n` at the given width, least significant first. -/
def littleEndian : Nat → Nat → List UInt8
  | 0, _ => []
  | width + 1, n => UInt8.ofNat (n % 256) :: littleEndian width (n / 256)

def readLittleEndian : List UInt8 → Nat
  | [] => 0
  | b :: rest => b.toNat + 256 * readLittleEndian rest

def readBytes (n : Nat) (bs : List UInt8) : Option (List UInt8 × List UInt8) :=
  if n ≤ bs.length then some (bs.take n, bs.drop n) else none

def readKey (bs : List UInt8) : Option ((Nat × Nat) × List UInt8) := do
  let (key, rest) ← readVarint bs
  if key < UInt32.size ∧ key % 8 < 6 ∧ key / 8 ≠ 0 then some ((key / 8, key % 8), rest) else none

def readPayload (layout : Nat) (bs : List UInt8) : Option (Payload × List UInt8) :=
  match layout with
  | 0 => (readVarint bs).map fun p => (.varint (UInt64.ofNat p.1), p.2)
  | 1 => (readBytes 8 bs).map fun p => (.fixed64 (UInt64.ofNat (readLittleEndian p.1)), p.2)
  | 2 => do
    let (n, rest) ← readVarint bs
    (readBytes n rest).map fun p => (.bytes p.1, p.2)
  | 5 => (readBytes 4 bs).map fun p => (.fixed32 (UInt32.ofNat (readLittleEndian p.1)), p.2)
  | _ => none

/-- What follows the end of the innermost of the open groups, and then of all of them. The fuel
bounds the number of keys. -/
def skipGroups (limit : Nat) : Nat → List Nat → List UInt8 → Option (List UInt8)
  | _, [], bs => some bs
  | 0, _ :: _, _ => none
  | fuel + 1, g :: gs, bs => do
    let ((number, layout), rest) ← readKey bs
    if layout = 4 then
      if number = g then skipGroups limit fuel gs rest else none
    else if limit ≤ gs.length + 1 then none
    else if layout = 3 then skipGroups limit fuel (number :: g :: gs) rest
    else (readPayload layout rest).bind fun p => skipGroups limit fuel (g :: gs) p.2

/-- Reads the fields of a message; `limit` is the nesting that is left. The fuel bounds the number
of fields. -/
def readFieldsWithin (limit : Nat) : Nat → List UInt8 → Option (List Field)
  | _, [] => some []
  | 0, _ :: _ => none
  | fuel + 1, b :: bs => do
    let ((number, layout), rest) ← readKey (b :: bs)
    if layout = 3 then
      if limit = 0 then none
      else do
        let rest ← skipGroups limit rest.length [number] rest
        (readFieldsWithin limit fuel rest).map (⟨number, .group⟩ :: ·)
    else do
      let (payload, rest) ← readPayload layout rest
      (readFieldsWithin limit fuel rest).map (⟨number, payload⟩ :: ·)

def readFields (limit : Nat) (bs : List UInt8) : Option (List Field) :=
  readFieldsWithin limit bs.length bs

def Payload.layout : Payload → Nat
  | .varint _ => 0
  | .fixed64 _ => 1
  | .bytes _ => 2
  | .group => 3
  | .fixed32 _ => 5

def Payload.encode : Payload → List UInt8
  | .varint n => Wire.varint n
  | .fixed64 n => littleEndian 8 n.toNat
  | .bytes content => Wire.varint (UInt64.ofNat content.length) ++ content
  | .group => []
  | .fixed32 n => littleEndian 4 n.toNat

def Field.encode (f : Field) : List UInt8 :=
  varint (UInt64.ofNat (8 * f.number + f.payload.layout)) ++ f.payload.encode

def encodeFields (fs : List Field) : List UInt8 :=
  fs.flatMap Field.encode

end SensorRelay.Wire
