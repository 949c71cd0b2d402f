import SensorRelay.Text.Hex

/-!
# Tokens of TOML

A document is cut into words, quoted strings, punctuation, blanks and line ends. Comments leave no
token. A carriage return may stand only before a line feed, and control characters stand nowhere
but in escapes; the tab is an exception.
-/

namespace SensorRelay.Toml

open Text

/-- A quoted string is kept without its quotes and escapes. -/
inductive Token
  | blank (chars : List Char)
  | newline
  | equals
  | period
  | comma
  | colon
  | plus
  | openBrace
  | closeBrace
  | openBracket
  | closeBracket
  | word (chars : List Char)
  | quoted (s : String) (multiline : Bool)
deriving DecidableEq, Repr

namespace Token

/-- A carriage return with its line feed is a line feed. -/
def foldLineEnds : List Char → List Char
  | '\r' :: '\n' :: cs => '\n' :: foldLineEnds cs
  | c :: cs => c :: foldLineEnds cs
  | [] => []

def isWordChar (c : Char) : Bool :=
  c.isAlpha || c.isDigit || c == '-' || c == '_'

def isBlankChar (c : Char) : Bool :=
  c == ' ' || c == '\t'

def isCommentChar (c : Char) : Bool :=
  c == '\t' || 0x20 ≤ c.toNat

def isTextChar (c : Char) : Bool :=
  isCommentChar c && c.toNat != 0x7F

def simpleEscape? : Char → Option Char
  | '"' => some '"'
  | '\\' => some '\\'
  | 'b' => some '\x08'
  | 'f' => some '\x0c'
  | 'n' => some '\n'
  | 'r' => some '\r'
  | 't' => some '\t'
  | _ => none

def codePoint? (digits : List Char) : Option Char :=
  (readHex digits).bind fun n => if n.isValidChar then some (Char.ofNat n) else none

abbrev Body := Option (List Char × List Char)

def Body.cons (c : Char) (b : Body) : Body :=
  b.map fun p => (c :: p.1, p.2)

def literal : List Char → Body
  | '\'' :: cs => some ([], cs)
  | c :: cs => if isTextChar c then (literal cs).cons c else none
  | [] => none

/-- A string without escapes over several lines. Up to two quotes may stand before the closing
ones. -/
def literalLines : List Char → Body
  | '\'' :: '\'' :: '\'' :: '\'' :: '\'' :: cs => some (['\'', '\''], cs)
  | '\'' :: '\'' :: '\'' :: '\'' :: cs => some (['\''], cs)
  | '\'' :: '\'' :: '\'' :: cs => some ([], cs)
  | c :: cs => if isTextChar c || c == '\n' then (literalLines cs).cons c else none
  | [] => none

def basic : List Char → Body
  | '"' :: cs => some ([], cs)
  | '\\' :: 'u' :: a :: b :: c :: d :: cs =>
    (codePoint? [a, b, c, d]).bind (basic cs).cons
  | '\\' :: 'U' :: a :: b :: c :: d :: e :: f :: g :: h :: cs =>
    (codePoint? [a, b, c, d, e, f, g, h]).bind (basic cs).cons
  | '\\' :: c :: cs => (simpleEscape? c).bind (basic cs).cons
  | c :: cs => if isTextChar c && c != '\\' then (basic cs).cons c else none
  | [] => none

/-- Where a backslash at the end of a line leads: first to the end of that line, then over all
blanks and line ends. -/
inductive Joint
  | closed
  | untilLineEnd
  | untilText
deriving DecidableEq, Repr

def basicLines : Joint → List Char → Body
  | .untilLineEnd, '\n' :: cs => basicLines .untilText cs
  | .untilLineEnd, c :: cs => if isBlankChar c then basicLines .untilLineEnd cs else none
  | .untilText, ' ' :: cs => basicLines .untilText cs
  | .untilText, '\t' :: cs => basicLines .untilText cs
  | .untilText, '\n' :: cs => basicLines .untilText cs
  | _, '"' :: '"' :: '"' :: '"' :: '"' :: cs => some (['"', '"'], cs)
  | _, '"' :: '"' :: '"' :: '"' :: cs => some (['"'], cs)
  | _, '"' :: '"' :: '"' :: cs => some ([], cs)
  | _, '\\' :: '\n' :: cs => basicLines .untilText cs
  | _, '\\' :: ' ' :: cs => basicLines .untilLineEnd cs
  | _, '\\' :: '\t' :: cs => basicLines .untilLineEnd cs
  | _, '\\' :: 'u' :: a :: b :: c :: d :: cs =>
    (codePoint? [a, b, c, d]).bind (basicLines .closed cs).cons
  | _, '\\' :: 'U' :: a :: b :: c :: d :: e :: f :: g :: h :: cs =>
    (codePoint? [a, b, c, d, e, f, g, h]).bind (basicLines .closed cs).cons
  | _, '\\' :: c :: cs => (simpleEscape? c).bind (basicLines .closed cs).cons
  | _, c :: cs =>
    if (isTextChar c && c != '\\') || c == '\n' then (basicLines .closed cs).cons c else none
  | _, [] => none

/-- A line end right after the opening quotes is no part of the string. -/
def dropLineEnd : List Char → List Char
  | '\n' :: cs => cs
  | cs => cs

def string? : List Char → Option (Token × List Char)
  | '"' :: '"' :: '"' :: cs =>
    (basicLines .closed (dropLineEnd cs)).map fun p => (quoted (String.ofList p.1) true, p.2)
  | '"' :: cs => (basic cs).map fun p => (quoted (String.ofList p.1) false, p.2)
  | '\'' :: '\'' :: '\'' :: cs =>
    (literalLines (dropLineEnd cs)).map fun p => (quoted (String.ofList p.1) true, p.2)
  | '\'' :: cs => (literal cs).map fun p => (quoted (String.ofList p.1) false, p.2)
  | _ => none

def punctuation? : Char → Option Token
  | '\n' => some newline
  | '=' => some equals
  | '.' => some period
  | ',' => some comma
  | ':' => some colon
  | '+' => some plus
  | '{' => some openBrace
  | '}' => some closeBrace
  | '[' => some openBracket
  | ']' => some closeBracket
  | _ => none

/-- The first token of a text; `none` for it if a comment was passed over. -/
def first? : List Char → Option (Option Token × List Char)
  | [] => none
  | c :: cs =>
    match punctuation? c with
    | some t => some (some t, cs)
    | none =>
      if c = '#' then some (none, cs.dropWhile isCommentChar)
      else if isBlankChar c then
        some (some (blank (c :: cs.takeWhile isBlankChar)), cs.dropWhile isBlankChar)
      else if isWordChar c then
        some (some (word (c :: cs.takeWhile isWordChar)), cs.dropWhile isWordChar)
      else (string? (c :: cs)).map fun p => (some p.1, p.2)

def scanAll : Nat → List Char → Option (List Token)
  | _, [] => some []
  | 0, _ => none
  | fuel + 1, cs => do
    let (token, rest) ← first? cs
    some (token.toList ++ (← scanAll fuel rest))

/-- A byte order mark at the start is passed over. -/
def dropMark : List Char → List Char
  | '\uFEFF' :: cs => cs
  | cs => cs

def scan (s : String) : Option (List Token) :=
  let cs := dropMark (foldLineEnds s.toList)
  scanAll cs.length cs

end Token
end SensorRelay.Toml
