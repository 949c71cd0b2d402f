import SensorRelay.Config.Key
import SensorRelay.Json.Reader
import SensorRelay.Toml.Reader

/-!
# Layers

A source of settings is a layer of assignments to keys. A document assigns its top-level members;
an environment assigns texts through the variables with a fixed first part in their names.
-/

namespace SensorRelay.Config

open Text

abbrev Layer := List (Key × Value)

namespace Layer

def apply (l : Layer) (root : Value) : Option Value :=
  l.foldlM (fun root a => a.1.set a.2 root) root

/-- Later layers override earlier ones. -/
def combine (ls : List Layer) : Option Value :=
  ls.foldlM (fun root l => l.apply root) (.table [])

def ofTable (v : Value) : Layer :=
  v.members.map fun m => (Key.ofText m.1, m.2)

def variableStart : List Char :=
  "sensorstream_".toList

/-- Two underscores stand for a point. -/
def withPoints : List Char → List Char
  | '_' :: '_' :: cs => '.' :: withPoints cs
  | c :: cs => c :: withPoints cs
  | [] => []

/-- The sign of the kelvin has the small letter k. -/
def lowered (c : Char) : Char :=
  if c.toNat = 0x212A then 'k' else c.toLower

/-- The key of a variable, whose case does not matter. -/
def keyOfVariable? (name : String) : Option Key :=
  let cs := name.toList.map lowered
  if variableStart.isPrefixOf cs then
    some (Key.ofText (String.ofList (withPoints (cs.drop variableStart.length))))
  else none

def ofEnvironment (environment : List (String × String)) : Layer :=
  environment.filterMap fun v => (keyOfVariable? v.1).map (·, .text v.2)

end Layer

mutual

/-- Integers of sixty-four bits stay integers, and other numbers become doubles. Of members with one
name the last counts. -/
def Value.ofJson : Json → Value
  | .null | .garbled => .null
  | .bool b => .bool b
  | .number literal =>
    match (Json.number literal).integer? Int64.minValue.toInt Int64.maxValue.toInt with
    | some n => .integer n
    | none => .double (Json.doubleOf literal)
  | .string s => .text s
  | .array items => .list (Value.itemsOfJson items)
  | .object ms => .table (Value.membersOfJson [] ms)

def Value.itemsOfJson : List Json → List Value
  | [] => []
  | j :: rest => Value.ofJson j :: Value.itemsOfJson rest

def Value.membersOfJson (known : List (String × Value)) :
    List (String × Json) → List (String × Value)
  | [] => known
  | (name, j) :: rest => Value.membersOfJson (bindName name (Value.ofJson j) known) rest

end

inductive Format
  | toml
  | json
deriving DecidableEq, Repr

namespace Format

def all : List Format := [toml, json]

def extension : Format → String
  | toml => "toml"
  | json => "json"

/-- What stands after the last point of a file's name. The point that begins a name does not
count. -/
def extension? (path : String) : Option String :=
  let file := path.toList.reverse.takeWhile (· ≠ '/')
  let last := file.takeWhile (· ≠ '.')
  if last.length + 1 < file.length then some (String.ofList last.reverse) else none

def ofPath? (path : String) : Option Format :=
  (extension? path).bind fun e => all.find? (·.extension = e)

/-- A document of another kind than a table is empty. -/
def read (f : Format) (bytes : List UInt8) : Option Value :=
  (readUtf8 bytes).bind fun s =>
    match f with
    | toml => Toml.read s
    | json => ((Json.read bytes).filter (Json.isUsable 0)).map Value.ofJson

end Format

def Format.extended (f : Format) (path : String) : String :=
  path ++ "." ++ f.extension

/-- The file that a path names, among those that exist. An extension may be missing from the
path. -/
def findFile (files : String → Option (List UInt8)) (path : String) :
    Option (Format × List UInt8) :=
  match files path with
  | some bytes => (Format.ofPath? path).map (·, bytes)
  | none => Format.all.findSome? fun f => (files (f.extended path)).map (f, ·)

end SensorRelay.Config
