import SensorRelay.Error
import SensorRelay.Service

/-!
# Registration and login

One question each. What was asked becomes the identity together with the token of the answer.
-/

namespace SensorRelay.Client

open Auth Rpc

structure SensorIdentity where
  id : String
  name : String
  location : String
  tags : List String
  token : Token
deriving DecidableEq

/-- The email is known after registration only. -/
structure ClientIdentity where
  login : String
  email : Option String
  token : Token
deriving DecidableEq

def SensorIdentity.ofCredentials (r : SensorRegistration) (c : SensorCredentials) :
    Except Error SensorIdentity :=
  if c.token.text.isEmpty || c.id.isEmpty then
    .error ⟨.protocol, "registration response without token or id"⟩
  else .ok ⟨c.id, r.name, r.location, r.tags, c.token⟩

variable {σ : Type} [Service σ]

def registerSensor (r : SensorRegistration) (o : Occasion) :
    StateM σ (Except Error SensorIdentity) := do
  match answered (← Service.registerSensor r o) with
  | .ok c => return SensorIdentity.ofCredentials r c
  | .error s => return .error (Error.ofAuthStatus s)

def registerClient (r : ClientRegistration) (o : Occasion) :
    StateM σ (Except Error ClientIdentity) := do
  match answered (← Service.registerClient r o) with
  | .ok token => return .ok ⟨r.login, some r.email, token⟩
  | .error s => return .error (Error.ofAuthStatus s)

def logIn (login password : String) (o : Occasion) : StateM σ (Except Error ClientIdentity) := do
  match answered (← Service.logIn login password o) with
  | .ok token => return .ok ⟨login, none, token⟩
  | .error s => return .error (Error.ofAuthStatus s)

end SensorRelay.Client
