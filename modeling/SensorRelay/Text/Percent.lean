import SensorRelay.Text.Hex

/-!
# Percent signs

Bytes that are written as a percent sign and two hexadecimal digits.
-/

namespace SensorRelay.Text

def hexPair? (a b : UInt8) : Option UInt8 :=
  (readHex [Char.ofNat a.toNat, Char.ofNat b.toNat]).map UInt8.ofNat

/-- A percent sign without two digits stands for itself. -/
def percentDecoded : List UInt8 → List UInt8
  | 0x25 :: a :: b :: rest =>
    match hexPair? a b with
    | some x => x :: percentDecoded rest
    | none => 0x25 :: percentDecoded (a :: b :: rest)
  | c :: rest => c :: percentDecoded rest
  | [] => []

theorem percentDecoded_eq_self {bs : List UInt8} (h : 0x25 ∉ bs) : percentDecoded bs = bs := by
  fun_induction percentDecoded bs <;> simp_all

end SensorRelay.Text
