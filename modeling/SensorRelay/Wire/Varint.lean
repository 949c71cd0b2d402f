/-!
# Variable-length integers

Seven bits a byte, low bits first; every byte but the last has its top bit set. Ten bytes hold
sixty-four bits, so a tenth byte above one is refused.
-/

namespace SensorRelay.Wire

def varintBytes : Nat → Nat → List UInt8
  | 0, _ => []
  | width + 1, n =>
    if n < 128 then [UInt8.ofNat n] else UInt8.ofNat (n % 128 + 128) :: varintBytes width (n / 128)

def varint (n : UInt64) : List UInt8 :=
  varintBytes 10 n.toNat

/-- Reads a number of at most `width` bytes; the last of them may hold one bit only. -/
def readVarintBytes : Nat → List UInt8 → Option (Nat × List UInt8)
  | 0, _ => none
  | _, [] => none
  | width + 1, b :: rest =>
    if b.toNat < 128 then
      if width = 0 ∧ 1 < b.toNat then none else some (b.toNat, rest)
    else (readVarintBytes width rest).map fun p => (b.toNat - 128 + 128 * p.1, p.2)

def readVarint (bs : List UInt8) : Option (Nat × List UInt8) :=
  readVarintBytes 10 bs

/-- A number that fits into `7 * k + 1` bits is read back from `k + 1` bytes. -/
theorem readVarintBytes_varintBytes (k n : Nat) (h : n < 2 * Nat.pow 128 k) (rest : List UInt8) :
    readVarintBytes (k + 1) (varintBytes (k + 1) n ++ rest) = some (n, rest) := by
  induction k generalizing n with
  | zero =>
    have h2 : n < 2 := by simpa using h
    have hb : (UInt8.ofNat n).toNat = n := by simp; omega
    rw [varintBytes, if_pos (by omega)]
    simp only [List.cons_append, List.nil_append, readVarintBytes, hb]
    rw [if_pos (by omega), if_neg (by omega)]
  | succ k ih =>
    rw [varintBytes]
    by_cases hn : n < 128
    · have hb : (UInt8.ofNat n).toNat = n := by simp; omega
      simp [hn, readVarintBytes, hb]
    · have hb : (UInt8.ofNat (n % 128 + 128)).toNat = n % 128 + 128 := by
        rw [UInt8.toNat_ofNat']; omega
      have hq : n / 128 < 2 * Nat.pow 128 k := by
        have : Nat.pow 128 (k + 1) = Nat.pow 128 k * 128 := rfl
        omega
      rw [if_neg hn, List.cons_append, readVarintBytes, hb, if_neg (by omega), ih _ hq]
      simp only [Option.map_some, Option.some.injEq, Prod.mk.injEq, and_true]
      omega

@[simp]
theorem readVarint_varint (n : UInt64) (rest : List UInt8) :
    readVarint (varint n ++ rest) = some (n.toNat, rest) :=
  readVarintBytes_varintBytes 9 n.toNat n.toNat_lt rest

end SensorRelay.Wire
