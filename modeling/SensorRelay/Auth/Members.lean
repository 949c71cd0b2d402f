import SensorRelay.Json.Basic

/-!
# Members of token objects

A member that the token format names may stand only once; other members are skipped.
-/

namespace SensorRelay.Auth

/-- At most one member of that name: `none` if there are more. -/
def single (name : String) (j : Json) : Option (Option Json) :=
  match j.members name with
  | [] => some none
  | [x] => some (some x)
  | _ => none

def required (name : String) (j : Json) : Option Json :=
  (single name j).join

/-- Is a member absent, null or fitting? -/
def optional (fits : Json → Bool) (j : Json) (name : String) : Bool :=
  match single name j with
  | some none | some (some .null) => true
  | some (some x) => fits x
  | none => false

def isText (j : Json) : Bool := j.string?.isSome

def isTextList (j : Json) : Bool := j.strings?.isSome

/-- The name of a choice: a text, or an object with that one name and nothing in it. -/
def choice? : Json → Option String
  | .string s => some s
  | .object [(s, .null)] => some s
  | _ => none

def isChoiceOf (names : List String) (j : Json) : Bool :=
  (choice? j).any names.contains

end SensorRelay.Auth
