import SensorRelay.Json.Basic
import SensorRelay.Text.Hex

/-!
# Writing JSON

Compact text. Inside strings only the quote, the backslash and control characters are escaped.
-/

namespace SensorRelay.Json

open Text

def escape (c : Char) : List Char :=
  if c = '"' then ['\\', '"']
  else if c = '\\' then ['\\', '\\']
  else if c.toNat = 0x08 then ['\\', 'b']
  else if c.toNat = 0x0C then ['\\', 'f']
  else if c = '\n' then ['\\', 'n']
  else if c = '\r' then ['\\', 'r']
  else if c = '\t' then ['\\', 't']
  else if c.toNat < 0x20 then '\\' :: 'u' :: hexDigits 4 c.toNat
  else [c]

def quote (s : String) : List Char :=
  '"' :: (s.toList.flatMap escape ++ ['"'])

mutual

def chars : Json → List Char
  | null => "null".toList
  | bool b => (if b then "true" else "false").toList
  | number literal => literal.toList
  | string s => quote s
  | array items => '[' :: itemChars items
  | object ms => '{' :: memberChars ms
  | garbled => "null".toList

/-- The items after the opening bracket, with the closing one. -/
def itemChars : List Json → List Char
  | [] => [']']
  | [j] => chars j ++ [']']
  | j :: rest => chars j ++ ',' :: itemChars rest

def memberChars : List (String × Json) → List Char
  | [] => ['}']
  | [(k, j)] => quote k ++ ':' :: chars j ++ ['}']
  | (k, j) :: rest => quote k ++ ':' :: chars j ++ ',' :: memberChars rest

end

def text (j : Json) : String :=
  String.ofList j.chars

end SensorRelay.Json
