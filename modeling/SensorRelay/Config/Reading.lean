import SensorRelay.Config.Settings
import SensorRelay.Config.Value
import SensorRelay.Double.Notation
import SensorRelay.Json.Basic

/-!
# Reading settings

How settings are read from the values of a format. Sections and settings that are not known are
passed over, and what may be missing has its default. A section can also be written as a list of
its settings in order.
-/

namespace SensorRelay.Config

open Text

/-- How the values of a format are read. `unsigned` reads a word that has so many values. `members`
finds the values of names; it refuses a value that has no members. -/
structure Reading (V : Type) where
  text : V → Option String
  optionalText : V → Option (Option String)
  unsigned : Nat → V → Option Nat
  members : List String → V → Option (String → Option V)

namespace Reading

variable {V : Type} (r : Reading V)

def orDefault {α : Type} (default : α) (read : V → Option α) : Option V → Option α
  | none => some default
  | some v => read v

def word64 (v : V) : Option Nat :=
  r.unsigned UInt64.size v

def port (v : V) : Option UInt16 :=
  (r.unsigned UInt16.size v).map UInt16.ofNat

def server (v : V) : Option ServerSettings := do
  let m ← r.members ["host", "port", "history_capacity", "event_buffer"] v
  some {
    host := ← (m "host").bind r.text
    port := ← (m "port").bind r.port
    historyCapacity := ← orDefault 50 r.word64 (m "history_capacity")
    eventBuffer := ← orDefault 256 r.word64 (m "event_buffer") }

def auth (v : V) : Option AuthSettings := do
  let m ← r.members ["secret"] v
  some { secret := ← orDefault none r.optionalText (m "secret") }

def client (v : V) : Option ClientSettings := do
  let m ← r.members ["endpoint", "measurement_period_ms"] v
  some {
    endpoint := ← (m "endpoint").bind r.text
    measurementPeriod := ← orDefault 1000 r.word64 (m "measurement_period_ms") }

def logging (v : V) : Option LoggingSettings := do
  let m ← r.members ["level", "filter"] v
  some {
    level := ← orDefault "info" r.text (m "level")
    filter := ← orDefault none r.optionalText (m "filter") }

def settings (v : V) : Option Settings := do
  let m ← r.members ["server", "auth", "client", "logging"] v
  some {
    server := ← (m "server").bind r.server
    auth := ← orDefault {} r.auth (m "auth")
    client := ← (m "client").bind r.client
    logging := ← orDefault {} r.logging (m "logging") }

end Reading

namespace Value

def switch? (s : String) : Option Bool :=
  let word := String.ofList (s.toList.map Char.toLower)
  if ["true", "on", "yes"].contains word then some true
  else if ["false", "off", "no"].contains word then some false
  else none

def text? : Value → Option String
  | text s => some s
  | bool b => some (if b then "true" else "false")
  | integer n => some (signedNumeral n)
  | double x => some x.text
  | _ => none

/-- A double is rounded to the nearest word; a text is a switch or a numeral. -/
def unsigned? : Value → Option Nat
  | integer n => if n < 0 then none else some n.toNat
  | bool b => some b.toNat
  | double x => some (x.toNatWithin (UInt64.size - 1))
  | text s => ((switch? s).map Bool.toNat).or (readUnsigned (UInt64.size - 1) s.toList)
  | _ => none

/-- Words lose the bits that do not fit. Null is no text where a text is optional. -/
def reading : Reading Value where
  text := text?
  optionalText
    | null => some none
    | v => v.text?.map some
  unsigned size v := v.unsigned?.map (· % size)
  members names
    | table ms => some fun name => ms.lookup name
    | list vs => some fun name => (names.zip vs).lookup name
    | _ => none

end Value

/-- Nothing is converted: words are integer literals that fit, and a known name stands once. -/
def jsonReading : Reading Json where
  text := Json.string?
  optionalText
    | .null => some none
    | j => j.string?.map some
  unsigned size j := j.unsigned? (size - 1)
  members names
    | .object ms =>
      let j := Json.object ms
      if names.any fun name => 1 < (j.members name).length then none
      else some fun name => j.member? name
    | .array items =>
      if names.length < items.length then none else some fun name => (names.zip items).lookup name
    | _ => none

end SensorRelay.Config
