import SensorRelay.Config.Value
import SensorRelay.Text.Hex
import SensorRelay.Text.Numeral
import SensorRelay.Toml.Token

/-!
# Numbers of TOML

Integers have sixty-four bits. Single underscores may stand between digits. A decimal number has no
leading zeros before its point, and a number with a point or an exponent is a finite double.
-/

namespace SensorRelay.Toml

open Config Text

namespace Number

abbrev Reading := Option (Value × List Token)

/-- A run of digits without the underscores between them, and what follows. -/
def digits (isDigit : Char → Bool) (cs : List Char) : Option (List Char × List Char) :=
  let run := cs.takeWhile fun c => isDigit c || c == '_'
  let groups := run.splitOn '_'
  if groups.any List.isEmpty then none else some (groups.flatten, cs.drop run.length)

def sign : List Char → Bool × List Char
  | '-' :: cs => (true, cs)
  | cs => (false, cs)

def whole (cs : List Char) : Option (Bool × List Char × List Char) :=
  let (negative, cs) := sign cs
  match digits Char.isDigit cs with
  | some ('0' :: _ :: _, _) => none
  | some (ds, rest) => some (negative, ds, rest)
  | none => none

def isInt64 (n : Int) : Bool :=
  Int64.minValue.toInt ≤ n && n ≤ Int64.maxValue.toInt

def based (base : Nat) (cs : List Char) : Option Value :=
  match digits (fun c => (hexValue? c).any (· < base)) cs with
  | some (ds, []) =>
    let n := ds.foldl (fun n c => base * n + (hexValue? c).getD 0) 0
    if isInt64 n then some (.integer n) else none
  | _ => none

def decimal (cs : List Char) : Option Value :=
  match whole cs with
  | some (negative, ds, []) =>
    let magnitude : Int := Nat.ofDigitChars 10 ds 0
    let n := if negative then -magnitude else magnitude
    if isInt64 n then some (.integer n) else none
  | _ => none

/-- What follows the letter of an exponent, with the tokens after it. A plus sign is a token of its
own. -/
def exponent (cs : List Char) (rest : List Token) : Option (Int × List Token) :=
  match cs, rest with
  | [], .plus :: .word w :: rest =>
    match digits Char.isDigit w with
    | some (ds, []) => some (Nat.ofDigitChars 10 ds 0, rest)
    | _ => none
  | cs, rest =>
    let (negative, cs) := sign cs
    match digits Char.isDigit cs with
    | some (ds, []) =>
      let magnitude : Int := Nat.ofDigitChars 10 ds 0
      some (if negative then -magnitude else magnitude, rest)
    | _ => none

/-- An exponent if there is one; nothing else may follow the digits of a double. -/
def optionalExponent (cs : List Char) (rest : List Token) : Option (Int × List Token) :=
  match cs with
  | [] => some (0, rest)
  | c :: cs => if c = 'e' || c = 'E' then exponent cs rest else none

def doubleOf (negative : Bool) (before after : List Char) (exponent : Int) : Option Value :=
  let x := Double.ofDecimal negative (Nat.ofDigitChars 10 (before ++ after) 0)
    (exponent - after.length)
  if x.isFinite then some (.double x) else none

def double (cs : List Char) (rest : List Token) : Reading := do
  let (negative, ds, tail) ← whole cs
  let (e, rest) ← optionalExponent tail rest
  some ((← doubleOf negative ds [] e), rest)

/-- A double whose digits after the point begin another word. -/
def pointed (cs after : List Char) (rest : List Token) : Reading := do
  match ← whole cs with
  | (negative, ds, []) =>
    let (fraction, tail) ← digits Char.isDigit after
    let (e, rest) ← optionalExponent tail rest
    some ((← doubleOf negative ds fraction e), rest)
  | _ => none

def infinity (negative : Bool) : Double :=
  ⟨if negative then 0xFFF0000000000000 else 0x7FF0000000000000⟩

def notANumber (negative : Bool) : Double :=
  ⟨if negative then 0xFFF8000000000000 else 0x7FF8000000000000⟩

def plain (cs : List Char) : Option Value :=
  match cs with
  | ['i', 'n', 'f'] => some (.double (infinity false))
  | ['-', 'i', 'n', 'f'] => some (.double (infinity true))
  | ['n', 'a', 'n'] => some (.double (notANumber false))
  | ['-', 'n', 'a', 'n'] => some (.double (notANumber true))
  | cs => decimal cs

def read (cs : List Char) (rest : List Token) : Reading :=
  match cs with
  | '0' :: 'x' :: cs => (based 16 cs).map (·, rest)
  | '0' :: 'o' :: cs => (based 8 cs).map (·, rest)
  | '0' :: 'b' :: cs => (based 2 cs).map (·, rest)
  | cs =>
    if cs.contains 'e' || cs.contains 'E' then double cs rest
    else
      match rest with
      | .period :: .word after :: rest => pointed cs after rest
      | .period :: _ => none
      | rest => (plain cs).map (·, rest)

end Number
end SensorRelay.Toml
