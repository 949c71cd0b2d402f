import SensorRelay.Json.Basic
import SensorRelay.Json.StringLiteral

/-!
# Reading JSON

The whole input must be one value between blanks. The grammar is strict: no comments, no trailing
commas, no leading zeros, no control characters in strings.
-/

namespace SensorRelay.Json

def isJsonBlank (b : UInt8) : Bool :=
  b == 0x20 || b == 0x09 || b == 0x0A || b == 0x0D

def skipBlank (bs : List UInt8) : List UInt8 :=
  bs.dropWhile isJsonBlank

def isDigitByte (b : UInt8) : Bool := 0x30 ≤ b && b ≤ 0x39

def digitRun (bs : List UInt8) : Option (List UInt8 × List UInt8) :=
  let ds := bs.takeWhile isDigitByte
  if ds.isEmpty then none else some (ds, bs.drop ds.length)

/-- A whole part: a zero alone, or digits that do not begin with one. -/
def wholePart (bs : List UInt8) : Option (List UInt8 × List UInt8) :=
  match digitRun bs with
  | some (0x30 :: _ :: _, _) => none
  | r => r

def fractionPart : List UInt8 → Option (List UInt8 × List UInt8)
  | 0x2E :: r => (digitRun r).map fun p => (0x2E :: p.1, p.2)
  | r => some ([], r)

def exponentPart : List UInt8 → Option (List UInt8 × List UInt8)
  | e :: r =>
    if e = 0x65 ∨ e = 0x45 then
      match r with
      | s :: r' =>
        if s = 0x2B ∨ s = 0x2D then (digitRun r').map fun p => (e :: s :: p.1, p.2)
        else (digitRun r).map fun p => (e :: p.1, p.2)
      | [] => none
    else some ([], e :: r)
  | [] => some ([], [])

def numberBytes (bs : List UInt8) : Option (List UInt8 × List UInt8) := do
  let (sign, r) : List UInt8 × List UInt8 := match bs with
    | 0x2D :: r => ([0x2D], r)
    | r => ([], r)
  let (whole, r) ← wholePart r
  let (fraction, r) ← fractionPart r
  let (exponent, r) ← exponentPart r
  some (sign ++ whole ++ fraction ++ exponent, r)

def asciiText (bs : List UInt8) : String :=
  String.ofList (bs.map fun b => Char.ofNat b.toNat)

def afterWord (word bs : List UInt8) : Option (List UInt8) :=
  if word.isPrefixOf bs then some (bs.drop word.length) else none

mutual

/-- One value and what follows it. The fuel bounds the nesting and the number of siblings. -/
def readValue : Nat → List UInt8 → Option (Json × List UInt8)
  | 0, _ => none
  | fuel + 1, bs =>
    match skipBlank bs with
    | 0x22 :: r =>
      (skipString r).map (((stringText r).1.map string).getD garbled, ·)
    | 0x5B :: r =>
      match skipBlank r with
      | 0x5D :: r' => some (array [], r')
      | _ => (readItems fuel r).map fun p => (array p.1, p.2)
    | 0x7B :: r =>
      match skipBlank r with
      | 0x7D :: r' => some (object [], r')
      | _ => (readMembers fuel r).map fun p => ((p.1.map object).getD garbled, p.2)
    | 0x6E :: r => (afterWord [0x75, 0x6C, 0x6C] r).map (null, ·)
    | 0x74 :: r => (afterWord [0x72, 0x75, 0x65] r).map (bool true, ·)
    | 0x66 :: r => (afterWord [0x61, 0x6C, 0x73, 0x65] r).map (bool false, ·)
    | r => (numberBytes r).map fun p => (number (asciiText p.1), p.2)

def readItems : Nat → List UInt8 → Option (List Json × List UInt8)
  | 0, _ => none
  | fuel + 1, bs => do
    let (item, r) ← readValue fuel bs
    match skipBlank r with
    | 0x2C :: r' => (readItems fuel r').map fun p => (item :: p.1, p.2)
    | 0x5D :: r' => some ([item], r')
    | _ => none

/-- The members of an object up to its closing brace, or `none` for them if a name is garbled. -/
def readMembers : Nat → List UInt8 → Option (Option (List (String × Json)) × List UInt8)
  | 0, _ => none
  | fuel + 1, bs =>
    match skipBlank bs with
    | 0x22 :: r => do
      let name := (stringText r).1
      match skipBlank (← skipString r) with
      | 0x3A :: r => do
        let (item, r) ← readValue fuel r
        let first := name.map (·, item)
        match skipBlank r with
        | 0x2C :: r => do
          let (rest, r) ← readMembers fuel r
          some (first.bind fun m => rest.map (m :: ·), r)
        | 0x7D :: r => some (first.map ([·]), r)
        | _ => none
      | _ => none
    | _ => none

end

/-- More fuel than any value in the input needs. -/
def fuelFor (bs : List UInt8) : Nat := 2 * bs.length + 2

def read (bs : List UInt8) : Option Json :=
  match readValue (fuelFor bs) bs with
  | some (j, r) => if (skipBlank r).isEmpty then some j else none
  | none => none

end SensorRelay.Json
