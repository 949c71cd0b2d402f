import SensorRelay.Auth.Members

/-!
# Token headers

A header names the algorithm of its token's signature and may describe the key of it.
-/

namespace SensorRelay.Auth

def signatureAlgorithms : List String := [
  "HS256", "HS384", "HS512", "ES256", "ES384", "RS256", "RS384", "RS512", "PS256", "PS384",
  "PS512", "EdDSA"]

def headerJson : Json :=
  .object [("typ", .string "JWT"), ("alg", .string "HS256")]

/-- A type of public keys: whether they name a curve, and their members that are texts. -/
structure KeyType where
  name : String
  onCurve : Bool
  texts : List String
deriving DecidableEq, Repr

def keyTypes : List KeyType := [
  ⟨"EC", true, ["x", "y"]⟩, ⟨"RSA", false, ["n", "e"]⟩, ⟨"oct", false, ["k"]⟩,
  ⟨"OKP", true, ["x"]⟩]

def curves : List String := ["P-256", "P-384", "P-521", "Ed25519"]

def keyAlgorithms : List String :=
  signatureAlgorithms ++ ["RSA1_5", "RSA-OAEP", "RSA-OAEP-256"]

/-- The algorithm of a key may also be an object with that one name and an empty object. -/
def isKeyAlgorithm : Json → Bool
  | .object [(s, .object [])] => keyAlgorithms.contains s
  | j => isChoiceOf keyAlgorithms j

def KeyType.describes (t : KeyType) (key : Json) : Bool :=
  (required "kty" key).any (isChoiceOf [t.name]) &&
    (! t.onCurve || (required "crv" key).any (isChoiceOf curves)) &&
    t.texts.all fun name => (required name key).any isText

/-- Key members that are absent, null or a text. -/
def keyTexts : List String := ["use", "kid", "x5u", "x5t", "x5t#S256"]

/-- A key stands inside its header, and every value in it must be usable. -/
def isKey (key : Json) : Bool :=
  key.isUsable 1 && keyTexts.all (optional isText key) &&
    ["key_ops", "x5c"].all (optional isTextList key) && optional isKeyAlgorithm key "alg" &&
    keyTypes.any (·.describes key)

/-- Header members that are absent, null or a text. -/
def headerTexts : List String := ["typ", "cty", "jku", "kid", "x5u", "x5t", "x5t#S256"]

def headerMembers : List String := [
  "typ", "alg", "cty", "jku", "jwk", "kid", "x5u", "x5c", "x5t", "x5t#S256"]

/-- A header can also be written as the list of all its members. -/
def headerObject (j : Json) : Json :=
  match j with
  | .array items =>
    if items.length = headerMembers.length then .object (headerMembers.zip items) else j
  | _ => j

def headerAlgorithm? (written : Json) : Option String := do
  let j := headerObject written
  let algorithm ← choice? (← required "alg" j)
  if signatureAlgorithms.contains algorithm && headerTexts.all (optional isText j) &&
      optional isTextList j "x5c" && optional isKey j "jwk" then
    some algorithm
  else none

end SensorRelay.Auth
