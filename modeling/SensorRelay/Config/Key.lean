import SensorRelay.Config.Value
import SensorRelay.Text.Numeral

/-!
# Keys

A key is a path into nested tables and lists: a name, then names after points and places in
brackets. A text of another form is one name as a whole.
-/

namespace SensorRelay.Config

open Text

/-- A negative place counts from the end of its list. -/
inductive Step
  | member (name : String)
  | place (index : Int)
deriving DecidableEq, Repr

structure Key where
  head : String
  steps : List Step
deriving DecidableEq, Repr

namespace Key

def isNameChar (c : Char) : Bool :=
  c.isAlpha || c.isDigit || c == ' ' || c == '_' || c == '-'

def readName (cs : List Char) : Option (String × List Char) :=
  let name := cs.takeWhile isNameChar
  if name.isEmpty then none else some (String.ofList name, cs.drop name.length)

def isGap (c : Char) : Bool :=
  c == ' ' || c == '\t'

/-- The number between two brackets, which may have gaps around it. Only a minus sign may stand
before its digits. -/
def readIndex (cs : List Char) : Option Int :=
  let cs := ((cs.dropWhile isGap).reverse.dropWhile isGap).reverse
  if cs.head? = some '+' then none else readSigned Int64.minValue.toInt Int64.maxValue.toInt cs

/-- The steps after the first name. The fuel bounds their number. -/
def readSteps : Nat → List Char → Option (List Step)
  | _, [] => some []
  | fuel + 1, '.' :: cs => do
    let (name, rest) ← readName cs
    some (.member name :: (← readSteps fuel rest))
  | fuel + 1, '[' :: cs =>
    let inside := cs.takeWhile (· ≠ ']')
    match cs.drop inside.length with
    | ']' :: rest => do
      let index ← readIndex inside
      some (.place index :: (← readSteps fuel rest))
    | _ => none
  | _, _ => none

def ofText (s : String) : Key :=
  let cs := s.toList
  let path := (readName cs).bind fun (name, rest) =>
    (readSteps rest.length rest).map (Key.mk name)
  path.getD ⟨s, []⟩

/-- A list cannot grow to more items than this. -/
def greatestLength : Nat := UInt32.size

/-- Where in a list of that length an index points. There is nothing before its start. -/
def placeOf? (length : Nat) (index : Int) : Option Nat :=
  if 0 ≤ index then if index < greatestLength then some index.toNat else none
  else if index.natAbs ≤ length then some (length - index.natAbs)
  else none

/-- Changes what a step leads to. On the way any other value becomes a table or a list, and what is
missing is null. -/
def modify (f : Value → Option Value) : Step → Value → Option Value
  | .member name, node =>
    (f ((node.member? name).getD .null)).map fun v => .table (bindName name v node.members)
  | .place index, node => do
    let i ← placeOf? node.items.length index
    let v ← f (node.items[i]?.getD .null)
    some (.list (Value.setItem i v node.items))

def assign (v : Value) : Step → List Step → Value → Option Value
  | .member name, [], node => some (Value.put name v node)
  | .place index, [], node => modify (fun _ => some v) (.place index) node
  | step, next :: rest, node => modify (assign v next rest) step node

/-- Sets a key of a whole configuration; there is none if the key leads out of a list. -/
def set (k : Key) (v : Value) (root : Value) : Option Value :=
  assign v (.member k.head) k.steps root

end Key
end SensorRelay.Config
