import SensorRelay.Text.Numeral
import SensorRelay.Toml.Token

/-!
# Dates of TOML

A date, a time of the day, or both with an optional offset. Only the fields are checked, not the
length of the month. A date is kept as its normal text: a `T` before the time, no zeros at the end
of the fraction, `Z` for a zero offset that is written as a letter.
-/

namespace SensorRelay.Toml

open Text

namespace Date

def digit : List Char → Option (Nat × List Char)
  | c :: cs => if c.isDigit then some (c.toNat - '0'.toNat, cs) else none
  | [] => none

def twoDigits (cs : List Char) : Option (Nat × List Char) := do
  let (a, cs) ← digit cs
  let (b, cs) ← digit cs
  some (10 * a + b, cs)

def after (c : Char) : List Char → Option (List Char)
  | d :: cs => if d = c then some cs else none
  | [] => none

def day (cs : List Char) : Option (List Char × List Char) := do
  let (century, cs) ← twoDigits cs
  let (year, cs) ← twoDigits cs
  let (month, cs) ← twoDigits (← after '-' cs)
  let (d, cs) ← twoDigits (← after '-' cs)
  if 1 ≤ month ∧ month ≤ 12 ∧ 1 ≤ d ∧ d ≤ 31 then
    some (padded 4 (100 * century + year) ++ '-' :: padded 2 month ++ '-' :: padded 2 d, cs)
  else none

/-- Nine digits of a fraction count; the zeros at its end are dropped with the point if nothing is
left. -/
def fraction (cs : List Char) : Option (List Char × List Char) :=
  match cs with
  | '.' :: cs =>
    let ds := cs.takeWhile Char.isDigit
    let kept := ((ds.take 9).reverse.dropWhile (· = '0')).reverse
    if ds.isEmpty then none
    else some (if kept.isEmpty then [] else '.' :: kept, cs.drop ds.length)
  | cs => some ([], cs)

def timeOfDay (cs : List Char) : Option (List Char × List Char) := do
  let (hour, cs) ← twoDigits cs
  let (minute, cs) ← twoDigits (← after ':' cs)
  let (second, cs) ← twoDigits (← after ':' cs)
  let (f, cs) ← fraction cs
  if hour ≤ 24 ∧ minute ≤ 59 ∧ second ≤ 59 then
    some (padded 2 hour ++ ':' :: padded 2 minute ++ ':' :: padded 2 second ++ f, cs)
  else none

/-- The rest of a text. The sign of an offset of zero hours is a plus. -/
def offset : List Char → Option (List Char)
  | [] => some []
  | ['Z'] | ['z'] => some ['Z']
  | sign :: cs => do
    let (hours, cs) ← twoDigits cs
    let (minutes, cs) ← twoDigits (← after ':' cs)
    if cs.isEmpty ∧ (sign = '+' ∨ sign = '-') then
      some ((if hours = 0 then '+' else sign) :: padded 2 hours ++ ':' :: padded 2 minutes)
    else none

def isTimeMark (c : Char) : Bool :=
  c == 'T' || c == 't' || c == ' '

/-- The normal text of a date. A time of the day alone has no offset. -/
def normal? (cs : List Char) : Option (List Char) :=
  if cs[2]? = some ':' then do
    let (time, rest) ← timeOfDay cs
    if rest.isEmpty then some time else none
  else do
    let (date, rest) ← day cs
    match rest with
    | [] => some date
    | c :: rest =>
      if isTimeMark c then
        let (time, rest) ← timeOfDay rest
        some (date ++ 'T' :: time ++ (← offset rest))
      else none

/-- A point, a plus sign or a colon with the word after it, if that character comes next. -/
def part (mark : Token) (c : Char) (text : List Char) :
    List Token → Option (List Char × List Token)
  | t :: rest =>
    if t = mark then
      match rest with
      | .word w :: rest => some (text ++ c :: w, rest)
      | _ => none
    else some (text, t :: rest)
  | [] => some (text, [])

def clock (text : List Char) (rest : List Token) : Option (List Char × List Token) := do
  match rest with
  | .word minutes :: .colon :: .word seconds :: rest =>
    let (text, rest) ← part .period '.' (text ++ ':' :: minutes ++ ':' :: seconds) rest
    let (text, rest) ← part .plus '+' text rest
    part .colon ':' text rest
  | _ => none

def written (first : List Char) (rest : List Token) : Option (List Char × List Token) :=
  let (text, rest) := match rest with
    | .blank [' '] :: .word w :: rest => (first ++ ' ' :: w, rest)
    | rest => (first, rest)
  match rest with
  | .colon :: rest => clock text rest
  | rest => some (text, rest)

def read (first : List Char) (rest : List Token) : Option (String × List Token) := do
  let (text, rest) ← written first rest
  some (String.ofList (← normal? text), rest)

def hasSmallExponent (cs : List Char) : Bool :=
  let pairs := cs.zip (cs.drop 1)
  pairs.contains ('e', '-') || pairs.contains ('E', '-')

/-- Does a word begin a date, and not a number? A colon after it is enough. -/
def isBegun (first : List Char) (rest : List Token) : Bool :=
  first.contains 'T' || first.contains 't' ||
    ((first.drop 1).contains '-' && !hasSmallExponent first) || rest.head? == some .colon

end Date
end SensorRelay.Toml
