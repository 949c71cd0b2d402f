/-!
# Hexadecimal digits

Bytes as pairs of lower-case digits, and natural numbers at a fixed width. Digits are read in
either case.
-/

namespace SensorRelay.Text

def hexDigit (n : Nat) : Char :=
  if n < 10 then Char.ofNat (48 + n) else Char.ofNat (87 + n)

def hexValue? (c : Char) : Option Nat :=
  let n := c.toNat
  if 48 ≤ n ∧ n ≤ 57 then some (n - 48)
  else if 97 ≤ n ∧ n ≤ 102 then some (n - 87)
  else if 65 ≤ n ∧ n ≤ 70 then some (n - 55)
  else none

theorem hexValue?_hexDigit {n : Nat} (h : n < 16) : hexValue? (hexDigit n) = some n := by
  revert n
  decide

/-- The last `width` digits of `n`, most significant first. -/
def hexDigits : Nat → Nat → List Char
  | 0, _ => []
  | width + 1, n => hexDigits width (n / 16) ++ [hexDigit (n % 16)]

def readHex (cs : List Char) : Option Nat :=
  cs.foldl (fun acc c => acc.bind fun n => (hexValue? c).map (16 * n + ·)) (some 0)

@[simp]
theorem length_hexDigits (width n : Nat) : (hexDigits width n).length = width := by
  induction width generalizing n with
  | zero => rfl
  | succ width ih => simp [hexDigits, ih]

theorem readHex_hexDigits (width n : Nat) :
    readHex (hexDigits width n) = some (n % Nat.pow 16 width) := by
  induction width generalizing n with
  | zero => simp [hexDigits, readHex, Nat.mod_one]
  | succ width ih =>
    have hd := hexValue?_hexDigit (Nat.mod_lt n (by decide : 16 > 0))
    have hn := ih (n / 16)
    simp only [readHex] at hn
    simp [hexDigits, readHex, List.foldl_append, hn, hd]
    rw [Nat.pow_succ, Nat.mul_comm (16 ^ width), Nat.mod_mul]
    omega

def hexOfBytes (bytes : List UInt8) : String :=
  String.ofList (bytes.flatMap fun b => hexDigits 2 b.toNat)

inductive HexError
  | oddLength
  | badDigit (byte : UInt8) (position : Nat)
deriving DecidableEq, Repr

/-- The stray byte is shown as the Latin-1 character of its value. -/
def HexError.message : HexError → String
  | .oddLength => "Odd number of digits"
  | .badDigit byte position =>
    s!"Invalid character '" ++ String.singleton (Char.ofNat byte.toNat) ++
      s!"' at position {position}"

/-- Reads pairs of digits from ASCII bytes; `position` counts the bytes already read. -/
def bytesOfPairs : Nat → List UInt8 → Except HexError (List UInt8)
  | _, [] => .ok []
  | _, [_] => .error .oddLength
  | position, hi :: lo :: rest =>
    match hexValue? (Char.ofNat hi.toNat), hexValue? (Char.ofNat lo.toNat) with
    | none, _ => .error (.badDigit hi position)
    | _, none => .error (.badDigit lo (position + 1))
    | some h, some l =>
      (bytesOfPairs (position + 2) rest).map (UInt8.ofNat (16 * h + l) :: ·)

/-- An odd length is reported before any stray character. -/
def bytesOfHex (ascii : List UInt8) : Except HexError (List UInt8) :=
  if ascii.length % 2 = 1 then .error .oddLength else bytesOfPairs 0 ascii

end SensorRelay.Text
