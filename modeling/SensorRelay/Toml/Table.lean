import SensorRelay.Config.Value
import SensorRelay.Toml.Date

/-!
# Tables of TOML

How entries under dotted keys and sections under headers make up one table. Nothing is said twice:
a key has one value, a table has one header, and a table that dotted keys made has none. A section
may come before or after the sections of its subtables. A table that begins with the mark of dates
is the date that the mark's text writes, and nothing else in it counts.
-/

namespace SensorRelay.Toml

open Config

/-- A value as it is written. A date is given by its normal text. -/
inductive Node
  | scalar (v : Value)
  | date (s : String)
  | list (items : List Node)
  | table (entries : List (List String × Node))

abbrev Entry := List String × Node

/-- The entries after a header. An `isElement` header begins a new element of a list of tables. -/
structure Section where
  path : List String
  isElement : Bool
  entries : List Entry

namespace Table

def heads (paths : List (List String)) : List String :=
  (paths.filterMap List.head?).eraseDups

def below? (name : String) : List String → Option (List String)
  | first :: rest => if first = name then some rest else none
  | [] => none

def entriesBelow (name : String) (entries : List Entry) : List Entry :=
  entries.filterMap fun e => (below? name e.1).map (·, e.2)

/-- Does no dotted key go through a key that had a value first? The fuel bounds the length of the
keys. -/
def dotsFit : Nat → List Entry → Bool
  | 0, _ => true
  | fuel + 1, entries =>
    (heads (entries.map (·.1))).all fun name =>
      match entriesBelow name entries with
      | ([], _) :: rest => rest.all (·.1.isEmpty)
      | own => dotsFit fuel (own.filter fun e => !e.1.isEmpty)

def depth (paths : List (List String)) : Nat :=
  (paths.map List.length).foldl max 0

/-- Can the entries stand together in one place of the text? -/
def areWritable (entries : List Entry) : Bool :=
  dotsFit (depth (entries.map (·.1))) entries

/-- A table whose first key is this one is a date. -/
def dateMark : String := "$__toml_private_datetime"

def markedDate (n : Node) : Option Value :=
  match n with
  | .scalar (.text s) => (Date.normal? s.toList).map fun cs => .text (String.ofList cs)
  | _ => none

mutual

/-- The value of a node. The fuel bounds the nesting, counting every part of a dotted key. -/
def ofNode : Nat → Node → Option Value
  | 0, _ => none
  | _ + 1, .scalar v => some v
  | _ + 1, .date s => some (.text s)
  | fuel + 1, .list ns => (ns.mapM (ofNode fuel)).map .list
  | fuel + 1, .table entries => ofEntries fuel entries

def ofEntries : Nat → List Entry → Option Value
  | 0, _ => none
  | fuel + 1, entries =>
    match entries with
    | (name :: rest, n) :: _ =>
      if name = dateMark then if rest.isEmpty then markedDate n else none
      else (members fuel entries).map .table
    | _ => (members fuel entries).map .table

def members : Nat → List Entry → Option (List (String × Value))
  | 0, _ => none
  | fuel + 1, entries =>
    (heads (entries.map (·.1))).mapM fun name =>
      match entriesBelow name entries with
      | [([], n)] => (ofNode fuel n).map (name, ·)
      | own => if own.any (·.1.isEmpty) then none else (ofEntries fuel own).map (name, ·)

end

/-- Cuts sections before every one that begins an element. -/
def elements (sections : List Section) : List (List Section) :=
  (sections.foldr
    (fun s (current, done) =>
      if s.path.isEmpty && s.isElement then ([], ({ s with isElement := false } :: current) :: done)
      else (s :: current, done))
    ([], [])).2

def firstKey (sections : List Section) : Option (List String) :=
  sections.findSome? fun s =>
    if s.path.isEmpty then s.entries.head?.map (·.1) else some s.path

def isMarked (sections : List Section) : Bool :=
  (firstKey sections).any (·.head? = some dateMark)

/-- What sections write. The fuel bounds the nesting. A marked table has one section. -/
def ofSections : Nat → List Section → Option Value
  | 0, _ => none
  | fuel + 1, sections => do
    let own := sections.filter (·.path.isEmpty)
    if isMarked sections then
      match sections, own with
      | [s], [_] => if s.isElement then none else ofEntries fuel s.entries
      | _, _ => none
    else
      let own ← match own with
        | [] => some []
        | [s] => if s.isElement then none else members fuel s.entries
        | _ => none
      let nested ← (heads (sections.map (·.path))).mapM fun name => do
        let group := sections.filterMap fun s =>
          (below? name s.path).map fun p => { s with path := p }
        if group.head?.any fun s => s.path.isEmpty && s.isElement then
          some (name, Value.list (← (elements group).mapM (ofSections fuel)))
        else some (name, ← ofSections fuel group)
      if nested.any fun m => (own.lookup m.1).isSome then none else some (.table (own ++ nested))

/-- The value of a document, whose first section has no header. Nothing follows in it if that
section is a date. -/
def ofDocument (fuel : Nat) (sections : List Section) : Option Value :=
  match sections with
  | root :: _ =>
    if isMarked [root] then ofEntries fuel root.entries else ofSections fuel sections
  | [] => some (.table [])

end Table
end SensorRelay.Toml
