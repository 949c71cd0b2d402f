import SensorRelay.Auth.Members
import SensorRelay.Json.Scan

/-!
# Registered claims

The members that tokens of any kind may have: times, an issuer, a subject and an audience. Only the
audience counts. A claim that cannot be read is passed over, and the reading of the object goes on
where that claim's reading stopped.
-/

namespace SensorRelay.Auth

open Json Scan

namespace RegisteredClaims

/-- A time is never used, and nothing nested is read for it. -/
def time : Scan Unit := do
  let b ← peek
  if b = 0x5B then
    discard next
    closeList
  else if b = 0x7B then
    discard next
    closeObject
  else discard (value 1 0)

def nested : Scan Json := do
  value (fuelFor (← get)) (depthLimit - 1)

def names : List String := ["exp", "nbf", "sub", "iss", "aud"]

/-- The members of the claims that are left, given the registered ones before them. The result is
the audience, if there is one that can be read. -/
def members : Nat → List String → Option Json → Bool → Scan (Option Json)
  | 0, _, _, _ => failure
  | fuel + 1, seen, audience, first => do
    if ← nextMember first then
      let name ← text
      if seen.contains name then failure
      byte 0x3A
      if names.contains name then
        let audience ←
          if name = "aud" then nested.attempt
          else
            let passed := if name = "iss" then discard nested else
              if name = "sub" then discard (value 1 0) else time
            discard passed.attempt
            pure audience
        members fuel (name :: seen) audience false
      else
        skipped
        members fuel seen audience false
    else pure audience

def object : Scan (Option Json) := do
  byte 0x7B
  enclosed (members (fuelFor (← get)) [] none true) closeObject

/-- A token for a named audience, even for none of them, is refused. -/
def admitted (bytes : List UInt8) : Bool :=
  let (audience, rest) := object.run bytes
  audience.any (fun a => ! a.any fun j => isText j || isTextList j) && (skipBlank rest).isEmpty

end RegisteredClaims
end SensorRelay.Auth
