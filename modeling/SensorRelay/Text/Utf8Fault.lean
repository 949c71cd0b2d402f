import SensorRelay.Text.Numeral

/-!
# Faults of UTF-8

Where a byte string stops being UTF-8, and what is wrong there.
-/

namespace SensorRelay.Text

/-- The bytes before `index` are UTF-8. So many bytes there are not, or none if the bytes end inside
a character. -/
structure Utf8Fault where
  index : Nat
  length : Option Nat
deriving DecidableEq, Repr

namespace Utf8Fault

def message (f : Utf8Fault) : String :=
  match f.length with
  | some n =>
    "invalid utf-8 sequence of " ++ numeral n ++ " bytes from index " ++ numeral f.index
  | none => "incomplete utf-8 byte sequence from index " ++ numeral f.index

def followers? (first : UInt8) : Option Nat :=
  if first < 0x80 then some 0
  else if first < 0xC2 then none
  else if first < 0xE0 then some 1
  else if first < 0xF0 then some 2
  else if first < 0xF5 then some 3
  else none

/-- The least and the greatest byte that may come second, so that no character is written too
long, is a surrogate or is too great. -/
def secondRange (first : UInt8) : UInt8 × UInt8 :=
  if first = 0xE0 then (0xA0, 0xBF)
  else if first = 0xED then (0x80, 0x9F)
  else if first = 0xF0 then (0x90, 0xBF)
  else if first = 0xF4 then (0x80, 0x8F)
  else (0x80, 0xBF)

def fitting (first : UInt8) : List UInt8 → Nat
  | [] => 0
  | b :: rest =>
    let (least, greatest) := secondRange first
    if least ≤ b ∧ b ≤ greatest then
      1 + (rest.takeWhile fun c => 0x80 ≤ c && c < 0xC0).length
    else 0

def find? (index : Nat) (bytes : List UInt8) : Option Utf8Fault :=
  match bytes with
  | [] => none
  | first :: rest =>
    match followers? first with
    | none => some ⟨index, some 1⟩
    | some n =>
      let following := rest.take n
      let good := fitting first following
      if good = n then find? (index + 1 + n) (rest.drop n)
      else some ⟨index, if good = following.length then none else some (1 + good)⟩
termination_by bytes.length
decreasing_by
  simp only [List.length_drop, List.length_cons]
  omega

end Utf8Fault
end SensorRelay.Text
