import SensorRelay.Text.Hex

/-!
# UUIDs

Written in lower case and five groups. Read in any case, with or without hyphens, and the
hyphenated form also in braces or after `urn:uuid:`.
-/

namespace SensorRelay

structure Uuid where
  value : BitVec 128
deriving DecidableEq, Repr, Hashable

namespace Uuid

open Text

def groupLengths : List Nat := [8, 4, 4, 4, 12]

def cut : List Nat → List Char → List (List Char)
  | [], _ => []
  | n :: ns, cs => cs.take n :: cut ns (cs.drop n)

def text (u : Uuid) : String :=
  String.ofList (['-'].intercalate (cut groupLengths (hexDigits 32 u.value.toNat)))

instance : ToString Uuid := ⟨text⟩

def ofDigits? (cs : List Char) : Option Uuid :=
  if cs.length = 32 then (readHex cs).map fun n => ⟨BitVec.ofNat 128 n⟩ else none

def ofHyphenated? (cs : List Char) : Option Uuid :=
  let groups := cs.splitOn '-'
  if groups.map List.length = groupLengths then ofDigits? groups.flatten else none

/-- The scheme before a UUID in a URN, in any case. -/
def urnPrefix : List Char := "urn:uuid:".toList

def parse? (s : String) : Option Uuid :=
  let cs := s.toList
  if cs.length = 32 then ofDigits? cs
  else if cs.length = 38 ∧ cs.head? = some '{' ∧ cs.getLast? = some '}' then
    ofHyphenated? (cs.drop 1).dropLast
  else if cs.length = 45 ∧ (cs.take 9).map Char.toLower = urnPrefix then ofHyphenated? (cs.drop 9)
  else ofHyphenated? cs

/-- Marks random bits as a random UUID: version four, and the standard variant. -/
def ofRandomBits (bits : BitVec 128) : Uuid :=
  ⟨bits &&& ~~~(0xF#128 <<< 76) &&& ~~~(0x3#128 <<< 62) ||| (0x4#128 <<< 76) ||| (0x2#128 <<< 62)⟩

end Uuid
end SensorRelay
