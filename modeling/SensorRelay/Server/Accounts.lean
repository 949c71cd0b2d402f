import SensorRelay.Crypto.Sha256
import SensorRelay.Message
import SensorRelay.Text.Utf8

/-!
# Client accounts

Accounts by login. A login and an email are each given once; of a password only the digest is kept.
-/

namespace SensorRelay

structure Account where
  login : String
  passwordDigest : List UInt8
  email : String
deriving DecidableEq

structure Accounts where
  entries : List Account
deriving DecidableEq

namespace Accounts

variable (a : Accounts)

def empty : Accounts := ⟨[]⟩

def digest (password : String) : List UInt8 :=
  Crypto.sha256 (Text.utf8 password)

def find? (login : String) : Option Account :=
  a.entries.find? (·.login = login)

def contains (login : String) : Bool :=
  (a.find? login).isSome

def register? (r : ClientRegistration) : Option Accounts :=
  if a.contains r.login || a.entries.any (·.email = r.email) then none
  else some ⟨a.entries ++ [⟨r.login, digest r.password, r.email⟩]⟩

def verify (login password : String) : Bool :=
  match a.find? login with
  | some account => account.passwordDigest = digest password
  | none => false

end Accounts
end SensorRelay
