import SensorRelay.Toml.Number
import SensorRelay.Toml.Table

/-!
# Reading TOML

Lines of headers and entries. A value ends on its line unless it is an array or a string over
several lines.
-/

namespace SensorRelay.Toml

open Config

namespace Reader

def skipBlank : List Token → List Token
  | .blank _ :: rest => rest
  | rest => rest

def skipGaps (ts : List Token) : List Token :=
  ts.dropWhile fun
    | .blank _ | .newline => true
    | _ => false

def name : List Token → Option (String × List Token)
  | .word w :: rest => some (String.ofList w, rest)
  | .quoted s false :: rest => some (s, rest)
  | _ => none

/-- Names with points between them. The fuel bounds their number. -/
def path : Nat → List Token → Option (List String × List Token)
  | 0, _ => none
  | fuel + 1, ts => do
    let (first, rest) ← name (skipBlank ts)
    match skipBlank rest with
    | .period :: rest =>
      let (names, rest) ← path fuel rest
      some (first :: names, rest)
    | rest => some ([first], rest)

def key (ts : List Token) : Option (List String × List Token) := do
  match ← path ts.length ts with
  | (names, .equals :: rest) => some (names, skipBlank rest)
  | _ => none

def wordValue (w : List Char) (rest : List Token) : Option (Node × List Token) :=
  match w with
  | ['t', 'r', 'u', 'e'] => some (.scalar (.bool true), rest)
  | ['f', 'a', 'l', 's', 'e'] => some (.scalar (.bool false), rest)
  | _ =>
    if w = ['i', 'n', 'f'] || w = ['n', 'a', 'n'] ||
        w.head?.any (fun c => c.isDigit || c == '-') then
      if Date.isBegun w rest then (Date.read w rest).map fun p => (.date p.1, p.2)
      else (Number.read w rest).map fun p => (.scalar p.1, p.2)
    else none

mutual

/-- A value and what follows it. The fuel bounds the nesting and the number of siblings. -/
def value : Nat → List Token → Option (Node × List Token)
  | 0, _ => none
  | fuel + 1, ts =>
    match ts with
    | .quoted s _ :: rest => some (.scalar (.text s), rest)
    | .word w :: rest => wordValue w rest
    | .plus :: .word w :: rest => (Number.read w rest).map fun p => (.scalar p.1, p.2)
    | .openBracket :: rest =>
      (items fuel (skipGaps rest)).map fun p => (.list p.1, p.2)
    | .openBrace :: rest =>
      match skipBlank rest with
      | .closeBrace :: rest => some (.table [], rest)
      | rest => do
        let (entries, rest) ← pairs fuel rest
        if Table.areWritable entries then some (.table entries, rest) else none
    | _ => none

/-- The items of an array up to its closing bracket. A comma may follow the last one. -/
def items : Nat → List Token → Option (List Node × List Token)
  | 0, _ => none
  | fuel + 1, ts =>
    match ts with
    | .closeBracket :: rest => some ([], rest)
    | ts => do
      let (v, rest) ← value fuel ts
      match skipGaps rest with
      | .comma :: rest =>
        let (vs, rest) ← items fuel (skipGaps rest)
        some (v :: vs, rest)
      | .closeBracket :: rest => some ([v], rest)
      | _ => none

def pairs : Nat → List Token → Option (List Entry × List Token)
  | 0, _ => none
  | fuel + 1, ts => do
    let (k, rest) ← key ts
    let (v, rest) ← value fuel rest
    match skipBlank rest with
    | .comma :: rest =>
      let (entries, rest) ← pairs fuel rest
      some ((k, v) :: entries, rest)
    | .closeBrace :: rest => some ([(k, v)], rest)
    | _ => none

end

def endOfLine (ts : List Token) : Option (List Token) :=
  match skipBlank ts with
  | .newline :: rest => some rest
  | [] => some []
  | _ => none

def header (isElement : Bool) (ts : List Token) : Option (Section × List Token) := do
  match isElement, (← path ts.length ts) with
  | false, (names, .closeBracket :: rest) => some (⟨names, false, []⟩, ← endOfLine rest)
  | true, (names, .closeBracket :: .closeBracket :: rest) =>
    some (⟨names, true, []⟩, ← endOfLine rest)
  | _, _ => none

/-- Adds entries to the section that `s` began and the sections after it. The fuel bounds the
number of lines. -/
def sections : Nat → Section → List Token → Option (List Section)
  | 0, _, _ => none
  | fuel + 1, s, ts =>
    match skipGaps ts with
    | [] => some [s]
    | .openBracket :: .openBracket :: rest => do
      let (next, rest) ← header true rest
      some (s :: (← sections fuel next rest))
    | .openBracket :: rest => do
      let (next, rest) ← header false rest
      some (s :: (← sections fuel next rest))
    | ts => do
      let (k, rest) ← key ts
      let (v, rest) ← value (rest.length + 1) rest
      sections fuel { s with entries := s.entries ++ [(k, v)] } (← endOfLine rest)

end Reader

def read (s : String) : Option Value := do
  let ts ← Token.scan s
  let sections ← Reader.sections (ts.length + 1) ⟨[], false, []⟩ ts
  if sections.all fun s => Table.areWritable s.entries then
    Table.ofDocument (4 * ts.length + 4) sections
  else none

end SensorRelay.Toml
