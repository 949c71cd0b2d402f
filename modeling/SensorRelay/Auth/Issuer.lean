import SensorRelay.Auth.Claims
import SensorRelay.Auth.Header
import SensorRelay.Auth.TokenHeader
import SensorRelay.Crypto.Hmac
import SensorRelay.Text.Base64Url
import SensorRelay.Text.Blank

/-!
# Issuing and checking tokens

A token is a header, claims and a signature, each in base64url and joined by dots. The signature
is the keyed digest of everything before the last dot. Whatever is wrong with a token, the answer
is the same.
-/

namespace SensorRelay.Auth

open Text Crypto

structure Issuer where
  key : List UInt8
deriving DecidableEq

namespace Issuer

def invalidToken : Error :=
  ⟨.auth, "Invalid token"⟩

inductive SecretError
  | notHex (cause : HexError)
  | empty
deriving DecidableEq

def SecretError.error : SecretError → Error
  | .notHex cause => ⟨.config, "auth.secret is not valid hex: " ++ cause.message⟩
  | .empty => ⟨.config, "auth.secret must not be empty"⟩

/-- The key is read from hexadecimal digits between blanks; without a secret it is the given random
one. -/
def ofSecret (secret : Option String) (randomKey : List UInt8) : Except SecretError Issuer :=
  match secret with
  | none => .ok ⟨randomKey⟩
  | some s =>
    match bytesOfHex (utf8 (trim s)) with
    | .error e => .error (.notHex e)
    | .ok [] => .error .empty
    | .ok key => .ok ⟨key⟩

def sign (i : Issuer) (message : List Char) : List Char :=
  Base64Url.encode (hmacSha256 i.key (utf8 (String.ofList message)))

def part (j : Json) : List Char :=
  Base64Url.encode (utf8 j.text)

def unsigned (c : Claims) : List Char :=
  part headerJson ++ '.' :: part c.json

def issue (i : Issuer) (p : Principal) (now : Int) : Token :=
  let message := unsigned (Claims.ofPrincipal p now)
  ⟨String.ofList (message ++ '.' :: i.sign message)⟩

def cutLastDot (cs : List Char) : Option (List Char × List Char) :=
  let tail := (cs.reverse.takeWhile (· ≠ '.')).reverse
  if tail.length < cs.length then some (cs.take (cs.length - tail.length - 1), tail) else none

def principalOf? (i : Issuer) (raw : String) : Option Principal := do
  let (message, signature) ← cutLastDot raw.toList
  let (header, payload) ← cutLastDot message
  let algorithm ← headerAlgorithm? (← Json.read (← Base64Url.decode header))
  if algorithm = "HS256" ∧ signature = i.sign message then
    (← Claims.read (← Base64Url.decode payload)).principal?
  else none

def validate (i : Issuer) (raw : String) : Except Error Principal :=
  match i.principalOf? raw with
  | some p => .ok p
  | none => .error invalidToken

def rejected : Rpc.Status :=
  ⟨.unauthenticated, "Invalid token"⟩

/-- The token in a header text: what follows the scheme `bearer` in any case, or all of it. -/
def bearer (header : String) : String :=
  let trimmed := (trim header).toList
  let scheme := trimmed.takeWhile (· ≠ ' ')
  if scheme.length < trimmed.length ∧ scheme.map Char.toLower = "bearer".toList then
    trim (String.ofList (trimmed.drop (scheme.length + 1)))
  else String.ofList trimmed

/-- The principal of a request. A request without the header passes without a principal. -/
def authenticate (i : Issuer) (header : Option HeaderValue) :
    Except Rpc.Status (Option Principal) :=
  match header with
  | none => .ok none
  | some value =>
    match value.text?.bind fun s => i.principalOf? (bearer s) with
    | some p => .ok (some p)
    | none => .error rejected

def identify (i : Issuer) (header : Option HeaderValue) : Except Rpc.Status Principal :=
  match i.authenticate header with
  | .ok (some p) => .ok p
  | .ok none => .error rejected
  | .error s => .error s

end Issuer
end SensorRelay.Auth
