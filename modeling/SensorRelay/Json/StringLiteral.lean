import SensorRelay.Text.Hex
import SensorRelay.Text.Utf8

/-!
# String literals

A literal is taken from behind its opening quote. Skipping it checks only how it is written;
reading it also pairs surrogates and decodes the text. A reading that fails says where it stopped,
which need not be the end of the literal.
-/

namespace SensorRelay.Json

open Text

def codeUnit (a b c d : UInt8) : Option Nat :=
  readHex ([a, b, c, d].map fun x => Char.ofNat x.toNat)

def isHigh (n : Nat) : Bool := 0xD800 ≤ n && n < 0xDC00

def isLow (n : Nat) : Bool := 0xDC00 ≤ n && n < 0xE000

def pairBytes (high low : Nat) : List UInt8 :=
  String.utf8EncodeChar (Char.ofNat (0x10000 + (high - 0xD800) * 1024 + (low - 0xDC00)))

def simpleEscape? (b : UInt8) : Option UInt8 :=
  if b = 0x22 ∨ b = 0x5C ∨ b = 0x2F then some b
  else if b = 0x62 then some 0x08
  else if b = 0x66 then some 0x0C
  else if b = 0x6E then some 0x0A
  else if b = 0x72 then some 0x0D
  else if b = 0x74 then some 0x09
  else none

def skipString : List UInt8 → Option (List UInt8)
  | [] => none
  | 0x22 :: rest => some rest
  | 0x5C :: 0x75 :: a :: b :: c :: d :: rest =>
    if (codeUnit a b c d).isSome then skipString rest else none
  | 0x5C :: e :: rest => if (simpleEscape? e).isSome then skipString rest else none
  | b :: rest => if b < 0x20 ∨ b = 0x5C then none else skipString rest

/-- What is left where no second half of a surrogate pair can be read. -/
def afterHigh : List UInt8 → List UInt8
  | 0x5C :: 0x75 :: _ => []
  | 0x5C :: rest => rest.drop 1
  | rest => rest.drop 1

/-- The bytes that a literal writes and what follows its closing quote. At an unpaired surrogate
the reading stops behind the escape, and one byte later if that byte should have begun the
second half. -/
def stringBytes : List UInt8 → Option (List UInt8) × List UInt8
  | [] => (none, [])
  | 0x22 :: rest => (some [], rest)
  | 0x5C :: 0x75 :: a :: b :: c :: d :: 0x5C :: 0x75 :: a' :: b' :: c' :: d' :: rest =>
    match codeUnit a b c d, codeUnit a' b' c' d' with
    | some n, m? =>
      if isLow n then (none, 0x5C :: 0x75 :: a' :: b' :: c' :: d' :: rest)
      else if isHigh n then
        match m? with
        | some m =>
          if isLow m then
            let (bytes, left) := stringBytes rest
            (bytes.map (pairBytes n m ++ ·), left)
          else (none, rest)
        | none => (none, rest)
      else
        let (bytes, left) := stringBytes (0x5C :: 0x75 :: a' :: b' :: c' :: d' :: rest)
        (bytes.map (String.utf8EncodeChar (Char.ofNat n) ++ ·), left)
    | none, _ => (none, 0x5C :: 0x75 :: a' :: b' :: c' :: d' :: rest)
  | 0x5C :: 0x75 :: a :: b :: c :: d :: rest =>
    match codeUnit a b c d with
    | some n =>
      if isLow n then (none, rest)
      else if isHigh n then (none, afterHigh rest)
      else
        let (bytes, left) := stringBytes rest
        (bytes.map (String.utf8EncodeChar (Char.ofNat n) ++ ·), left)
    | none => (none, rest)
  | 0x5C :: 0x75 :: _ => (none, [])
  | 0x5C :: e :: rest =>
    match simpleEscape? e with
    | some b =>
      let (bytes, left) := stringBytes rest
      (bytes.map (b :: ·), left)
    | none => (none, rest)
  | b :: rest =>
    if b < 0x20 ∨ b = 0x5C then (none, rest)
    else
      let (bytes, left) := stringBytes rest
      (bytes.map (b :: ·), left)

/-- The text of a literal. Bytes that are not UTF-8 are found at its closing quote. -/
def stringText (bs : List UInt8) : Option String × List UInt8 :=
  let (bytes, left) := stringBytes bs
  (bytes.bind readUtf8, left)

end SensorRelay.Json
