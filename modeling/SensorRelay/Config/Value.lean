import SensorRelay.Binding
import SensorRelay.Double.Basic

/-!
# Configuration values

The values that a source assigns to keys, and how a later source overrides an earlier one: tables
are merged member by member, and any other value replaces what was there.
-/

namespace SensorRelay.Config

inductive Value
  | null
  | bool (b : Bool)
  | integer (n : Int)
  | double (x : Double)
  | text (s : String)
  | list (items : List Value)
  | table (members : List (String × Value))
deriving Inhabited

namespace Value

/-- No table has members but a table. -/
def members : Value → List (String × Value)
  | table ms => ms
  | _ => []

def items : Value → List Value
  | list vs => vs
  | _ => []

def member? (name : String) (v : Value) : Option Value :=
  v.members.lookup name

mutual

/-- Sets a member, turning any other value into a table. A table is merged into the member that is
there; another value replaces it. -/
def put (name : String) : Value → Value → Value
  | table incoming, node =>
    table (bindName name (merge incoming ((node.member? name).getD (table []))) node.members)
  | v, node => table (bindName name v node.members)

/-- Sets one member after the other; without members nothing changes. -/
def merge : List (String × Value) → Value → Value
  | [], node => node
  | (name, v) :: rest, node => merge rest (put name v node)

end

/-- Puts an item into a list, which is filled up with nulls. -/
def setItem (place : Nat) (v : Value) (items : List Value) : List Value :=
  (items ++ List.replicate (place + 1 - items.length) null).set place v

end Value
end SensorRelay.Config
