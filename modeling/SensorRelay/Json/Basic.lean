import SensorRelay.Json.Number
import SensorRelay.Text.Numeral

/-!
# JSON values

Members keep their order and may repeat. A number keeps its literal. A value whose text cannot be
decoded (an unpaired surrogate, bytes that are not UTF-8) is `garbled`: it may be skipped but
not used.
-/

namespace SensorRelay

inductive Json
  | null
  | bool (b : Bool)
  | number (literal : String)
  | string (s : String)
  | array (items : List Json)
  | object (members : List (String × Json))
  | garbled
deriving Inhabited

namespace Json

open Text

def members (name : String) (j : Json) : List Json :=
  match j with
  | object ms => (ms.filter (·.1 = name)).map (·.2)
  | _ => []

def member? (name : String) (j : Json) : Option Json :=
  (j.members name).head?

def string? : Json → Option String
  | string s => some s
  | _ => none

def strings? : Json → Option (List String)
  | array items => items.mapM string?
  | _ => none

/-- An integer literal without a sign, at most `limit`. -/
def unsigned? (limit : Nat) : Json → Option Nat
  | number literal => (readDigits literal.toList).filter (· ≤ limit)
  | _ => none

/-- An integer literal in the given range. The literal `-0` is no integer. -/
def integer? (least greatest : Int) : Json → Option Int
  | number literal =>
    (match literal.toList with
      | '-' :: r => (readDigits r).bind fun n => if n = 0 then none else some (-(n : Int))
      | r => (readDigits r).map Int.ofNat).filter fun n => least ≤ n && n ≤ greatest
  | _ => none

mutual

def depth : Json → Nat
  | array items => depthOfItems items + 1
  | object ms => depthOfMembers ms + 1
  | _ => 0

def depthOfItems : List Json → Nat
  | [] => 0
  | j :: rest => max (depth j) (depthOfItems rest)

def depthOfMembers : List (String × Json) → Nat
  | [] => 0
  | (_, j) :: rest => max (depth j) (depthOfMembers rest)

end

mutual

/-- Nothing in it is garbled, and each of its numbers has a finite double. -/
def isClean : Json → Bool
  | garbled => false
  | number literal => (doubleOf literal).isFinite
  | array items => itemsClean items
  | object ms => membersClean ms
  | _ => true

def itemsClean : List Json → Bool
  | [] => true
  | j :: rest => isClean j && itemsClean rest

def membersClean : List (String × Json) → Bool
  | [] => true
  | (_, j) :: rest => isClean j && membersClean rest

end

/-- Values nested deeper than this are not used. -/
def depthLimit : Nat := 127

/-- A value that may be kept whole where it stands inside that many others. -/
def isUsable (outside : Nat) (j : Json) : Bool :=
  j.isClean && j.depth + outside ≤ depthLimit

end Json
end SensorRelay
