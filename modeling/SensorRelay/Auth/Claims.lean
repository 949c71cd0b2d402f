import SensorRelay.Auth.RegisteredClaims
import SensorRelay.Json.Writer
import SensorRelay.Uuid

/-!
# Principals and claims

Whom a token speaks for, and the JSON object inside a token that says so.
-/

namespace SensorRelay.Auth

inductive Principal
  | sensor (id : Uuid)
  | client (login : String)
deriving DecidableEq, Repr

inductive PrincipalKind
  | sensor
  | client
deriving DecidableEq, Repr

def PrincipalKind.name : PrincipalKind → String
  | sensor => "sensor"
  | client => "client"

structure Claims where
  subject : String
  kind : PrincipalKind
  issuedAt : Int
deriving DecidableEq, Repr

namespace Claims

def ofPrincipal (p : Principal) (issuedAt : Int) : Claims :=
  match p with
  | .sensor id => ⟨id.text, .sensor, issuedAt⟩
  | .client login => ⟨login, .client, issuedAt⟩

/-- A sensor's subject must be a UUID; a client's may be any text. -/
def principal? (c : Claims) : Option Principal :=
  match c.kind with
  | .sensor => (Uuid.parse? c.subject).map .sensor
  | .client => some (.client c.subject)

def json (c : Claims) : Json :=
  .object [
    ("sub", .string c.subject),
    ("kind", .string c.kind.name),
    ("iat", .number (Text.signedNumeral c.issuedAt))]

def kindOfName? (name : String) : Option PrincipalKind :=
  if name = "sensor" then some .sensor else if name = "client" then some .client else none

def ofJson? (j : Json) : Option Claims := do
  let subject ← (← required "sub" j).string?
  let kind ← kindOfName? (← choice? (← required "kind" j))
  let issuedAt ← (← required "iat" j).integer? Int64.minValue.toInt Int64.maxValue.toInt
  some ⟨subject, kind, issuedAt⟩

/-- The claims that a whole input says, if their registered members admit it. -/
def read (bytes : List UInt8) : Option Claims :=
  ((Json.read bytes).bind ofJson?).filter fun _ => RegisteredClaims.admitted bytes

end Claims
end SensorRelay.Auth
