/-!
# Doubles

IEEE-754 doubles as words. Two doubles are equal when their bits are: a NaN equals itself and the
two zeros differ. A finite double is a sign and a product `significand · 2 ^ scale`.
-/

namespace SensorRelay

structure Double where
  bits : UInt64
deriving DecidableEq, Repr

namespace Double

def isNegative (x : Double) : Bool :=
  x.bits >>> 63 = 1

def exponentField (x : Double) : Nat :=
  (x.bits >>> 52 &&& 0x7FF).toNat

def fraction (x : Double) : Nat :=
  (x.bits &&& 0xFFFFFFFFFFFFF).toNat

def isFinite (x : Double) : Bool :=
  x.exponentField < 2047

def isNaN (x : Double) : Bool :=
  x.exponentField = 2047 && x.fraction ≠ 0

def isZero (x : Double) : Bool :=
  x.exponentField = 0 && x.fraction = 0

def significand (x : Double) : Nat :=
  if x.exponentField = 0 then x.fraction else (1 <<< 52) + x.fraction

/-- From the positive zero to below one. -/
def isUnitFraction (x : Double) : Bool :=
  !x.isNegative && x.exponentField < 1023

/-- The power of two of the last bit of the significand. -/
def scale (x : Double) : Int :=
  max x.exponentField 1 - 1075

def zero : Double := ⟨0⟩

/-- The two zeros become the positive one; every other double stays as it is. -/
def unsignedZero (x : Double) : Double :=
  if x.isZero then zero else x

@[simp]
theorem unsignedZero_unsignedZero (x : Double) : x.unsignedZero.unsignedZero = x.unsignedZero := by
  unfold unsignedZero
  split
  · rfl
  · simp_all

/-- Rounds `num / den` to the nearest integer, a half to the even one. -/
def roundHalfEven (num den : Nat) : Nat :=
  let q := num / den
  let r := num % den
  if 2 * r < den then q else if 2 * r > den then q + 1 else q + q % 2

/-- Rounds `num / den` to the nearest double, a half to the even significand. Values too large
become infinite. -/
def ofRatio (negative : Bool) (num den : Nat) : Double :=
  let sign := if negative then 1 <<< 63 else 0
  if num = 0 then ⟨UInt64.ofNat sign⟩
  else
    let guess : Int := Nat.log2 num - Nat.log2 den - 52
    let scaled (q : Int) : Nat × Nat :=
      if q < 0 then (num <<< q.natAbs, den) else (num, den <<< q.natAbs)
    let small := let s := scaled guess; s.1 < s.2 <<< 52
    let q := max (if small then guess - 1 else guess) (-1074)
    let s := scaled q
    let magnitude := ((q + 1074).toNat <<< 52) + roundHalfEven s.1 s.2
    ⟨UInt64.ofNat (sign + min magnitude (2047 <<< 52))⟩

def tenTo (k : Nat) : Nat :=
  Nat.pow 10 k

/-- The nearest double of `digits · 10 ^ exponent`. -/
def ofDecimal (negative : Bool) (digits : Nat) (exponent : Int) : Double :=
  let width := (Nat.toDigits 10 digits).length
  if exponent < -400 - width then ofRatio negative 0 1
  else if exponent < 0 then ofRatio negative digits (tenTo exponent.natAbs)
  else ofRatio negative (digits * tenTo (min exponent.natAbs 400)) 1

/-- The magnitude of a finite double, as a fraction. -/
def ratio (x : Double) : Nat × Nat :=
  if x.scale < 0 then (x.significand, 1 <<< x.scale.natAbs)
  else (x.significand <<< x.scale.natAbs, 1)

def times (x y : Double) : Double :=
  ofRatio false (x.ratio.1 * y.ratio.1) (x.ratio.2 * y.ratio.2)

/-- The nearest double of the quotient of two finite magnitudes, the second one not zero. -/
def dividedBy (x y : Double) : Double :=
  ofRatio false (x.ratio.1 * y.ratio.2) (x.ratio.2 * y.ratio.1)

def negated (x : Double) : Double :=
  ⟨x.bits ^^^ 0x8000000000000000⟩

/-- The nearest double of the sum with a natural number. Infinities and NaNs stay as they are. -/
def plus (x : Double) (n : Nat) : Double :=
  if !x.isFinite || n = 0 then x
  else
    let (num, den) := x.ratio
    let signed : Int := if x.isNegative then -(num : Int) else num
    let sum := signed + n * den
    ofRatio (sum < 0) sum.natAbs den

/-- Rounds to an integer, a half away from zero, into `[0, limit]`; a NaN counts as zero. -/
def toNatWithin (limit : Nat) (x : Double) : Nat :=
  if x.isNaN || x.isNegative then 0
  else if !x.isFinite then limit
  else
    let (num, den) := x.ratio
    min ((2 * num + den) / (2 * den)) limit

end Double
end SensorRelay
