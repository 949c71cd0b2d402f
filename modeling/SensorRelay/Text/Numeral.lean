/-!
# Decimal numerals

Numerals are read as a whole text or not at all. A leading plus sign and leading zeros are read;
a written numeral has neither.
-/

namespace SensorRelay.Text

def readDigits (cs : List Char) : Option Nat :=
  if !cs.isEmpty && cs.all Char.isDigit then some (Nat.ofDigitChars 10 cs 0) else none

theorem readDigits_toDigits (n : Nat) : readDigits (Nat.toDigits 10 n) = some n := by
  have hne : Nat.toDigits 10 n ≠ [] := Nat.toDigits_ne_nil
  have hall : (Nat.toDigits 10 n).all Char.isDigit = true := by
    rw [List.all_eq_true]
    exact fun c hc => Nat.isDigit_of_mem_toDigits (by decide) (by decide) hc
  simp [readDigits, hne, hall, Nat.ofDigitChars_toDigits]

def readUnsigned (limit : Nat) (cs : List Char) : Option Nat :=
  (readDigits (match cs with | '+' :: r => r | r => r)).filter (· ≤ limit)

def readSigned (least greatest : Int) (cs : List Char) : Option Int :=
  (match cs with
    | '-' :: r => (readDigits r).map fun n => -(n : Int)
    | '+' :: r => (readDigits r).map Int.ofNat
    | r => (readDigits r).map Int.ofNat).filter fun n => least ≤ n && n ≤ greatest

def numeral (n : Nat) : String :=
  String.ofList (Nat.toDigits 10 n)

def signedNumeral : Int → String
  | .ofNat n => numeral n
  | .negSucc n => "-" ++ numeral (n + 1)

/-- The decimal digits of `n`, padded with zeros on the left to at least `width`. -/
def padded (width n : Nat) : List Char :=
  let ds := Nat.toDigits 10 n
  List.replicate (width - ds.length) '0' ++ ds

end SensorRelay.Text
