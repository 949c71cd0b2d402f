import SensorRelay.Error
import SensorRelay.Text.Utf8

/-!
# Header values

The bytes that may stand in a request header, and the part of them that is plain text.
-/

namespace SensorRelay.Auth

/-- Bytes allowed in a header: anything printable or above ASCII, and the tab. -/
def isHeaderByte (b : UInt8) : Bool :=
  b == 0x09 || (0x20 ≤ b && b != 0x7F)

/-- Bytes of plain header text: visible ASCII, the space and the tab. -/
def isTextByte (b : UInt8) : Bool :=
  b == 0x09 || (0x20 ≤ b && b < 0x7F)

structure HeaderValue where
  bytes : List UInt8
  allowed : bytes.all isHeaderByte = true
deriving DecidableEq

namespace HeaderValue

def ofBytes? (bytes : List UInt8) : Option HeaderValue :=
  if h : bytes.all isHeaderByte = true then some ⟨bytes, h⟩ else none

def text? (v : HeaderValue) : Option String :=
  if v.bytes.all isTextByte then
    some (String.ofList (v.bytes.map fun b => Char.ofNat b.toNat))
  else none

end HeaderValue

/-- A token as it was issued or received; it may be any text. -/
structure Token where
  text : String
deriving DecidableEq

/-- What is shown of a token where it must stay secret. -/
instance : Repr Token := ⟨fun _ _ => "Token(..)"⟩

namespace Token

def unfitError : Error :=
  ⟨.invalidData, "token is not valid metadata"⟩

def attach (t : Token) : Except Error HeaderValue :=
  match HeaderValue.ofBytes? (Text.utf8 t.text) with
  | some v => .ok v
  | none => .error unfitError

end Token
end SensorRelay.Auth
