import SensorRelay.Logging.Pattern
import SensorRelay.Logging.Verbosity
import SensorRelay.Text.Utf8

/-!
# Directives

One part of a filter: a target, a scope in brackets and a verbosity, each of which may be missing.
The places of these parts are found without the indentation of the directive, but the parts are
taken from the indented text. So an indented directive has other parts than it seems to have, and
none at all if a part would begin or end inside a character.
-/

namespace SensorRelay.Logging

open Text

/-- Where a directive holds: everywhere, for records that have a field, or within spans only. -/
inductive Scope
  | everywhere
  | field (name : List Char)
  | span
deriving DecidableEq, Repr

def recordField : List Char :=
  "message".toList

def Scope.holdsRecords : Scope → Bool
  | everywhere => true
  | field name => name = recordField
  | span => false

structure Directive where
  target : Option (List Char)
  scope : Scope
  verbosity : Verbosity
deriving DecidableEq, Repr

namespace Directive

/-- Why a text is no directive. A `misplaced` one makes the whole filter unusable. -/
inductive Fault
  | unreadable
  | misplaced
deriving DecidableEq, Repr

def isExponent : List Char → Bool
  | [] => true
  | mark :: rest =>
    let digits := match rest with
      | '+' :: ds | '-' :: ds => ds
      | ds => ds
    (mark == 'e' || mark == 'E') && (readDigits digits).isSome

/-- A number without a sign: a word for a special one, or digits with an optional exponent. -/
def isMagnitude (cs : List Char) : Bool :=
  let (fraction, rest) := match cs.dropWhile Char.isDigit with
    | '.' :: r => (r.takeWhile Char.isDigit, r.dropWhile Char.isDigit)
    | r => ([], r)
  ["inf", "infinity", "nan"].contains (String.ofList (cs.map Char.toLower)) ||
    (!(cs.takeWhile Char.isDigit ++ fraction).isEmpty && isExponent rest)

/-- A field's value is a number or a pattern. Numbers without a plus sign are patterns too. -/
def isValue : List Char → Bool
  | '+' :: rest => isMagnitude rest
  | cs => Pattern.isValid cs

/-- The scope that a field describes. Fields of named spans and fields of a certain value belong to
spans only. -/
def fieldScope (isOfSpan : Bool) (field : List Char) : Except Fault Scope :=
  match field.span (· ≠ '=') with
  | ([], []) => .error .unreadable
  | (name, []) => .ok (if isOfSpan then .span else .field name)
  | (_, _ :: value) => if isValue (value.takeWhile (· ≠ '=')) then .ok .span else .error .unreadable

def isStart (c : Char) : Bool :=
  ['-', ':', '_', '['].contains c || isAlphanumeric c

section Parts

variable (whole : List Char)

/-- The part of the whole text between two places, which are counted in bytes. -/
def part (start stop : Nat) : Except Fault (List Char) :=
  match (cutBytes stop whole).bind fun p => cutBytes start p.1 with
  | some (_, inside) => .ok inside
  | none => .error .misplaced

def verbosityFrom (start : Nat) : Except Fault Verbosity := do
  match ← part whole start (byteCount whole) with
  | [] => .ok .trace
  | cs => ((Verbosity.parse? cs).map Except.ok).getD (.error .unreadable)

def readScope (start : Nat) (cs : List Char) : Except Fault (Scope × Nat × List Char) := do
  let name := cs.takeWhile fun c => c ≠ ']' && c ≠ '\x7b'
  let stop := start + byteCount name
  match cs.drop name.length with
  | [] => .error .unreadable
  | mark :: rest =>
    let span ← part whole start stop
    if mark = ']' then .ok (.span, stop + 1, rest)
    else
      let field := rest.takeWhile (· ≠ '\x7d')
      let start := stop + 1
      let stop := start + byteCount field
      match rest.drop field.length with
      | [] => .error .unreadable
      | _ :: rest =>
        let scope ← fieldScope (!span.isEmpty) (← part whole start stop)
        match rest with
        | ']' :: rest => .ok (scope, stop + 2, rest)
        | _ => .error .unreadable

/-- A target alone lets everything of it pass, and a verbosity alone has no target. -/
def parse : Except Fault Directive := do
  let trimmed := (trim (String.ofList whole)).toList
  if !(trimmed.head?.any isStart) then .error .unreadable
  else
    let name := trimmed.takeWhile fun c => c ≠ '=' && c ≠ '['
    let stop := byteCount name
    match trimmed.drop name.length with
    | [] =>
      match Verbosity.parse? whole with
      | some v => .ok ⟨none, .everywhere, v⟩
      | none => .ok ⟨some whole, .everywhere, .trace⟩
    | mark :: rest =>
      let target ← part whole 0 stop
      if mark = '=' then .ok ⟨some target, .everywhere, ← verbosityFrom whole (stop + 1)⟩
      else
        let target := if name.isEmpty then none else some target
        let (scope, stop, rest) ← readScope whole (stop + 1) rest
        match rest with
        | [] => .ok ⟨target, scope, .trace⟩
        | '=' :: _ => .ok ⟨target, scope, ← verbosityFrom whole (stop + 1)⟩
        | _ => .error .unreadable

end Parts

def covers (d : Directive) (target : List Char) : Bool :=
  d.scope.holdsRecords && d.target.all (·.isPrefixOf target)

/-- Of two directives the one with the longer target is more specific; between equal targets one
with a field is. -/
def specificity (d : Directive) : Nat :=
  2 * (d.target.map (·.length + 1)).getD 0 + if d.scope = .everywhere then 0 else 1

end Directive
end SensorRelay.Logging
