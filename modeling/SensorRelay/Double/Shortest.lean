import SensorRelay.Double.Basic

/-!
# Shortest digits

The decimal number with the fewest digits that reads back as a given double, and of those the one
nearest to it. For a digit count the only candidates are the two neighbours of the double on the
grid of decimals with that many digits: if any point of the grid reads back, one of these does.
Of two that are equally near, a notation chooses one.
-/

namespace SensorRelay

/-- The number `digits · 10 ^ exponent`. -/
structure Decimal where
  digits : Nat
  exponent : Int
deriving DecidableEq, Repr

inductive Tie
  | upper
  | even
deriving DecidableEq, Repr

def Tie.takesUpper (t : Tie) (lower : Nat) : Bool :=
  t = upper || lower % 2 = 1

namespace Double

/-- A positive finite double as a fraction, with the ends of the interval that rounds to it over
the same denominator. -/
structure Interval where
  low : Nat
  value : Nat
  high : Nat
  denominator : Nat
  closed : Bool

/-- The interval reaches half a unit of the last bit to each side, a quarter below a power of two.
An end belongs to it if the significand is even. -/
def interval (x : Double) : Interval :=
  let m := x.significand
  let up := if x.scale < 0 then 1 else 1 <<< x.scale.natAbs
  let below := if x.fraction = 0 && 1 < x.exponentField then 1 else 2
  { low := (4 * m - below) * up
    value := 4 * m * up
    high := (4 * m + 2) * up
    denominator := 4 * if x.scale < 0 then 1 <<< x.scale.natAbs else 1
    closed := m % 2 = 0 }

namespace Interval

def holds (i : Interval) (d : Nat) (k : Int) : Bool :=
  let n := d * (if k < 0 then 1 else tenTo k.natAbs) * i.denominator
  let t := if k < 0 then tenTo k.natAbs else 1
  if i.closed then i.low * t ≤ n && n ≤ i.high * t else i.low * t < n && n < i.high * t

def leading (i : Interval) : Int :=
  let width (n : Nat) : Int := (Nat.toDigits 10 n).length
  let guess := width i.value - width i.denominator
  let reached :=
    if guess < 0 then i.denominator ≤ i.value * tenTo guess.natAbs
    else i.denominator * tenTo guess.natAbs ≤ i.value
  if reached then guess else guess - 1

/-- The nearer of the two neighbours of the value on the grid `10 ^ k`, of those that round to
it. -/
def onGrid (i : Interval) (t : Tie) (k : Int) : Option Nat :=
  let num := i.value * if k < 0 then tenTo k.natAbs else 1
  let den := i.denominator * if k < 0 then 1 else tenTo k.natAbs
  let d := num / den
  match i.holds d k, i.holds (d + 1) k with
  | true, true =>
    let twice := 2 * (num % den)
    some (if den < twice || (twice = den && t.takesUpper d) then d + 1 else d)
  | true, false => some d
  | false, true => some (d + 1)
  | false, false => none

/-- The first grid with a hit, from coarse to fine. -/
def search (i : Interval) (t : Tie) : Nat → Int → Decimal
  | 0, k => ⟨i.value / i.denominator, k⟩
  | tries + 1, k =>
    match i.onGrid t k with
    | some d => ⟨d, k⟩
    | none => i.search t tries (k - 1)

end Interval

def stripZeros : Nat → Decimal → Decimal
  | 0, d => d
  | fuel + 1, d =>
    if d.digits ≠ 0 ∧ d.digits % 10 = 0 then stripZeros fuel ⟨d.digits / 10, d.exponent + 1⟩ else d

/-- The shortest decimal of the magnitude of a finite double; seventeen digits always suffice. -/
def shortest (x : Double) (t : Tie) : Decimal :=
  if x.isZero then ⟨0, 0⟩
  else stripZeros 20 (x.interval.search t 17 x.interval.leading)

end Double
end SensorRelay
