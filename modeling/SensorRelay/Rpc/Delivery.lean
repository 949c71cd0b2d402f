import SensorRelay.Rpc
import SensorRelay.Text.Percent
import SensorRelay.Text.Utf8
import SensorRelay.Text.Utf8Fault

/-!
# Delivery of statuses

What reaches the caller of the status with which a call ended. Percent signs are not protected on
the way, so what looks like an encoded byte is decoded on arrival.
-/

namespace SensorRelay.Rpc

open Text

/-- The status of a message that does not arrive as a text. -/
def garbledStatus (bytes : List UInt8) : Status :=
  ⟨.unknown, "Error deserializing status message header: " ++
    (((Utf8Fault.find? 0 bytes).map Utf8Fault.message).getD "")⟩

namespace Status

def delivered (s : Status) : Status :=
  let bytes := percentDecoded (utf8 s.message)
  match readUtf8 bytes with
  | some message => { s with message }
  | none => garbledStatus bytes

/-- The failure that the caller sees; a good status is none. -/
def failure? (s : Status) : Option Status :=
  if s.delivered.code = .ok then none else some s.delivered

theorem delivered_eq_self {s : Status} (h : 0x25 ∉ utf8 s.message) : s.delivered = s := by
  simp [delivered, percentDecoded_eq_self h]

end Status

def missingAnswer : Status :=
  ⟨.internal, "Missing response message."⟩

/-- The one answer of a call as it arrives. A good status in its place is a failure. -/
def answered {α : Type} (r : Except Status α) : Except Status α :=
  r.mapError fun s => s.failure?.getD missingAnswer

end SensorRelay.Rpc
