import SensorRelay.Double.Basic

/-!
# Number literals

The double of a JSON number literal. The digits that fit into sixty-four bits make a word, and its
nearest double is scaled by a power of ten; both steps round, so a long literal need not become
the double nearest to it.
-/

namespace SensorRelay

namespace Double

def infinity : Double := ⟨0x7FF0000000000000⟩

/-- The greatest power of ten that is scaled by at once. -/
def greatestPower : Nat := 308

def powerOfTen (k : Nat) : Double :=
  ofDecimal false 1 k

/-- A magnitude times a power of ten. What is too large is infinite, and what is too small for one
step is divided in two. -/
def scaledByTen (x : Double) (k : Int) : Double :=
  if x.isZero then zero
  else if 0 ≤ k then if greatestPower < k then infinity else x.times (powerOfTen k.natAbs)
  else if -k ≤ greatestPower then x.dividedBy (powerOfTen k.natAbs)
  else if -k ≤ 2 * greatestPower then
    (x.dividedBy (powerOfTen greatestPower)).dividedBy (powerOfTen (k.natAbs - greatestPower))
  else zero

end Double

namespace Json

def isIntegral (literal : String) : Bool :=
  literal.toList.all fun c => c.isDigit || c == '-'

/-- Appends the digits that fit into a word; the others are left. -/
def appendDigits (n : Nat) : List Char → Nat × List Char
  | [] => (n, [])
  | c :: cs =>
    let m := 10 * n + (c.toNat - '0'.toNat)
    if m < UInt64.size then appendDigits m cs else (n, c :: cs)

def exponentOf (cs : List Char) : Int :=
  match cs.drop 1 with
  | '-' :: r => -(Nat.ofDigitChars 10 r 0 : Int)
  | '+' :: r => Nat.ofDigitChars 10 r 0
  | r => Nat.ofDigitChars 10 r 0

/-- Every digit of the whole part that does not fit counts ten times, and every digit of the
fraction that fits a tenth. -/
def magnitudeOf (cs : List Char) : Double :=
  let (word, left) := appendDigits 0 (cs.takeWhile Char.isDigit)
  let (fraction, tail) := match cs.dropWhile Char.isDigit with
    | '.' :: r => (r.takeWhile Char.isDigit, r.dropWhile Char.isDigit)
    | r => ([], r)
  let (word, ignored) := appendDigits word fraction
  (Double.ofRatio false word 1).scaledByTen
    (exponentOf tail + left.length + ignored.length - fraction.length)

def doubleOf (literal : String) : Double :=
  match literal.toList with
  | '-' :: cs => (magnitudeOf cs).negated
  | cs => magnitudeOf cs

end Json
end SensorRelay
