import SensorRelay.Text.Alphanumeric
import SensorRelay.Text.Blank
import SensorRelay.Text.Hex

/-!
# Patterns

Which texts are regular expressions. Without tables of Unicode there are no classes of Unicode, no
word boundaries of it, and case is ignored in ASCII only; and a pattern matches no part of a
character. Nothing is matched here. A reader gives the nesting depth of what it read.
-/

namespace SensorRelay.Logging.Pattern

open Text

/-- The text that is left, the flags that hold there, and the names that groups have so far. -/
structure Cursor where
  rest : List Char
  ignoresCase : Bool
  isUnicode : Bool
  isSpaced : Bool
  names : List (List Char)

abbrev Reader := StateT Cursor Option

def peek? : Reader (Option Char) :=
  return (← get).rest.head?

def skip (n : Nat) : Reader Unit :=
  modify fun s => { s with rest := s.rest.drop n }

def next : Reader Char := do
  let c ← (← get).rest.head?
  skip 1
  pure c

def peek : Reader Char := do
  (← get).rest.head?

/-- Blanks and comments up to the end of their lines. The fuel bounds their number. -/
def afterSpace : Nat → List Char → List Char
  | 0, cs => cs
  | fuel + 1, cs =>
    match cs.dropWhile isBlank with
    | '#' :: rest => afterSpace fuel ((rest.dropWhile (· ≠ '\n')).drop 1)
    | rest => rest

def skipSpace : Reader Unit :=
  modify fun s => if s.isSpaced then { s with rest := afterSpace s.rest.length s.rest } else s

def advance : Reader Unit := do
  skip 1
  skipSpace
  discard peek

def after? (start : String) (cs : List Char) : Option (List Char) :=
  if start.toList.isPrefixOf cs then some (cs.drop start.length) else none

/-- What matches without parts of its own. A byte is a character written by two digits. -/
inductive Atom
  | char (c : Char) (isByte : Bool)
  | dot
  | edge
  | wordEdge
  | wordClass (isNegated : Bool)
  | property

def isMeta (c : Char) : Bool :=
  "\\.+*?()|[]^$#&-~\x7b\x7d".toList.contains c

def isEscapable (c : Char) : Bool :=
  isMeta c || (c.toNat < 0x80 && !c.isAlphanum && c != '<' && c != '>')

def hexDigits : Nat → Reader (List Char)
  | 0 => pure []
  | n + 1 => do
    skipSpace
    let c ← next
    if (readHex [c]).isSome then (c :: ·) <$> hexDigits n else failure

def hexChar (width : Nat) : Reader Atom := do
  let n ← readHex (← hexDigits width)
  skipSpace
  if n.isValidChar then pure (.char (Char.ofNat n) (width = 2)) else failure

def controlLetters : List (Char × Char) := [
  ('a', '\x07'), ('t', '\t'), ('n', '\n'), ('v', '\x0B'), ('f', '\x0C'), ('r', '\r')]

def escape : Reader Atom := do
  let c ← next
  if c = 'x' then hexChar 2
  else if c = 'u' then hexChar 4
  else if c = 'U' then hexChar 8
  else if c = 'p' ∨ c = 'P' then pure .property
  else if ['d', 's', 'w'].contains c then pure (.wordClass false)
  else if ['D', 'S', 'W'].contains c then pure (.wordClass true)
  else if isEscapable c then pure (.char c false)
  else if c = 'A' ∨ c = 'z' then pure .edge
  else if ['b', 'B', '<', '>'].contains c then pure .wordEdge
  else (controlLetters.lookup c).elim failure fun control => pure (.char control false)

def atom : Reader Atom := do
  let c ← next
  if c = '\\' then escape else pure (.char c false)

def isFoldable (s : Cursor) : Bool :=
  !(s.ignoresCase && s.isUnicode)

def Atom.isKnown (s : Cursor) : Atom → Bool
  | char c isByte => isFoldable s && (s.isUnicode || !isByte || c.toNat < 0x80)
  | dot => s.isUnicode
  | edge => true
  | wordEdge => !s.isUnicode
  | wordClass isNegated => !s.isUnicode && !isNegated
  | property => false

def Atom.isMember (s : Cursor) : Atom → Bool
  | char c _ => isFoldable s && (s.isUnicode || c.toNat < 0x80)
  | wordClass isNegated => !s.isUnicode && !isNegated
  | _ => false

def classNames : List String := [
  "alnum", "alpha", "ascii", "blank", "cntrl", "digit", "graph", "lower", "print", "punct",
  "space", "upper", "word", "xdigit"]

/-- What follows a class in brackets of its own, after the first of them, and whether the class
is negated. -/
def namedClass? (cs : List Char) : Option (Bool × List Char) := do
  let cs ← after? ":" cs
  let isNegated := cs.head? = some '^'
  let cs := if isNegated then cs.drop 1 else cs
  let name := cs.takeWhile (· ≠ ':')
  let rest ← after? ":]" (cs.drop name.length)
  if classNames.contains (String.ofList name) then some (isNegated, rest) else none

/-- The character after the next one; spaces and the sign of a comment do not count. -/
def second? (s : Cursor) : Option Char :=
  if s.isSpaced then
    match (s.rest.drop 1).dropWhile isBlank with
    | '#' :: rest => (rest.dropWhile isBlank).head?
    | rest => rest.head?
  else (s.rest.drop 1).head?

def range : Reader Unit := do
  let first ← atom
  skipSpace
  discard peek
  let s ← get
  if (← peek) ≠ '-' ∨ second? s = some ']' ∨ second? s = some '-' then
    if first.isMember s then pure () else failure
  else
    advance
    match first, (← atom) with
    | .char a x, .char b y =>
      if a.toNat ≤ b.toNat ∧ (Atom.char a x).isMember s ∧ (Atom.char b y).isMember s then pure ()
      else failure
    | _, _ => failure

/-- The dashes, or the bracket, that a set may begin with. -/
def literalStart : Nat → Nat → Reader Nat
  | 0, _ => failure
  | fuel + 1, count => do
    let c ← peek
    if c = '-' ∨ (c = ']' ∧ count = 0) then
      if isFoldable (← get) then advance else failure
      if c = '-' then literalStart fuel (count + 1) else pure 1
    else pure count

/-- The depth of a node over parts of that depth, if it has several. -/
def nodeDepth (count deepest : Nat) : Nat :=
  if count ≤ 1 then deepest else deepest + 1

mutual

def bracketed : Nat → Reader Nat
  | 0 => failure
  | fuel + 1 => do
    advance
    let isNegated := (← peek) = '^'
    if isNegated then advance
    let depth ← members fuel (← literalStart fuel 0) 0 none
    if isNegated && !(← get).isUnicode then failure else pure (depth + 1)

/-- What is left of a set, given how many members it has between its operators so far, how deep
they are, and how deep the part before the last operator is. -/
def members : Nat → Nat → Nat → Option Nat → Reader Nat
  | 0, _, _, _ => failure
  | fuel + 1, count, deepest, left => do
    skipSpace
    let c ← peek
    let s ← get
    let here := nodeDepth count deepest
    let all := left.elim here fun d => 1 + max d here
    if c = ']' then
      skip 1
      pure all
    else if c = '[' then
      match namedClass? (s.rest.drop 1) with
      | some (isNegated, rest) =>
        if isFoldable s && (s.isUnicode || !isNegated) then
          set { s with rest }
          members fuel (count + 1) deepest left
        else failure
      | none =>
        let depth ← bracketed fuel
        members fuel (count + 1) (max deepest depth) left
    else if ['&', '-', '~'].contains c ∧ (s.rest.drop 1).head? = some c then
      skip 2
      members fuel 0 0 (some all)
    else
      range
      members fuel (count + 1) deepest left

end

/-- The flags of a group, after its question mark. A flag after the minus sign is cleared. -/
def flags : Reader Unit := do
  let s ← get
  let written := s.rest.takeWhile fun c => c ≠ ':' && c ≠ ')'
  if written.all "-imsUuRx".toList.contains && written.eraseDups = written &&
      written.getLast? ≠ some '-' then
    let added := written.takeWhile (· ≠ '-')
    let holds (c : Char) (before : Bool) := if written.contains c then added.contains c else before
    set { s with
      rest := s.rest.drop written.length
      ignoresCase := holds 'i' s.ignoresCase
      isUnicode := holds 'u' s.isUnicode
      isSpaced := holds 'x' s.isSpaced }
  else failure

/-- A group's name and the bracket after it. No two groups have one name. -/
def groupName : Reader Unit := do
  let s ← get
  let name := s.rest.takeWhile (· ≠ '>')
  let isFirst (c : Char) := c == '_' || isAlphabetic c
  let isLater (c : Char) := ['_', '.', '[', ']'].contains c || isAlphanumeric c
  if name.head?.any isFirst && name.all isLater && !s.names.contains name &&
      name.length < s.rest.length then
    set { s with rest := s.rest.drop (name.length + 1), names := name :: s.names }
  else failure

/-- The beginning of a group from its bracket on. The result tells whether the group has content. -/
def groupStart : Reader Bool := do
  skip 1
  skipSpace
  let s ← get
  if ["?=", "?!", "?<=", "?<!"].any fun p => (after? p s.rest).isSome then failure
  else
    match (after? "?P<" s.rest).or (after? "?<" s.rest), after? "?" s.rest with
    | some rest, _ =>
      set { s with rest }
      groupName
      pure true
    | none, some rest =>
      set { s with rest }
      flags
      if (← next) = ':' then pure true
      else if rest.head? = some ')' then failure
      else pure false
    | none, none => pure true

def repetition : Reader Unit := do
  skip 1
  if (← peek?) = some '?' then skip 1

def single : Reader Unit := do
  let s ← get
  let a ← match (← peek) with
    | '.' => skip 1; pure .dot
    | '^' | '$' => skip 1; pure .edge
    | _ => atom
  if a.isKnown s then pure () else failure

mutual

/-- Sequences between bars, given how many there were and how deep they are. -/
def branches : Nat → Nat → Nat → Reader Nat
  | 0, _, _ => failure
  | fuel + 1, count, deepest => do
    let deepest := max deepest (← sequence fuel 0 0 none)
    if (← peek?) = some '|' then
      skip 1
      branches fuel (count + 1) deepest
    else pure (nodeDepth (count + 1) deepest)

/-- Items up to a bar, a closing bracket or the end. The last one can be repeated if its depth
is given. -/
def sequence : Nat → Nat → Nat → Option Nat → Reader Nat
  | 0, _, _, _ => failure
  | fuel + 1, count, deepest, last => do
    skipSpace
    let done := nodeDepth count deepest
    match (← peek?) with
    | none | some '|' | some ')' => pure done
    | some '(' =>
      let s ← get
      if ← groupStart then
        let depth ← branches fuel 0 0
        if (← peek?) = some ')' then
          skip 1
          modify fun t => { s with rest := t.rest, names := t.names }
          sequence fuel (count + 1) (max deepest (depth + 1)) (some (depth + 1))
        else failure
      else sequence fuel (count + 1) deepest none
    | some '[' =>
      let depth ← bracketed fuel
      sequence fuel (count + 1) (max deepest depth) (some depth)
    | some c =>
      if c = '\x7b' then failure
      else if ['*', '+', '?'].contains c then
        let depth ← last
        repetition
        sequence fuel count (max deepest (depth + 1)) (some (depth + 1))
      else
        single
        sequence fuel (count + 1) deepest (some 0)

end

def depthLimit : Nat := 250

/-- Is the text a pattern? A number of repetitions in braces does not occur. -/
def isValid (cs : List Char) : Bool :=
  match (branches (2 * cs.length + 2) 0 0).run ⟨cs, false, true, false, []⟩ with
  | some (depth, s) => s.rest.isEmpty && depth ≤ depthLimit
  | none => false

end SensorRelay.Logging.Pattern
