import SensorRelay.Instant.Basic
import SensorRelay.Text.Numeral

/-!
# Calendar text

Instants in the notation of RFC 3339. Years start in March, so that a leap day ends one; an era is
four hundred years.
-/

namespace SensorRelay

structure Date where
  year : Int
  month : Nat
  day : Nat
deriving DecidableEq, Repr

/-- The date of a day counted from 1970-01-01. -/
def Date.ofDay (day : Int) : Date :=
  let shifted := day + 719468
  let era := shifted / 146097
  let dayOfEra := (shifted % 146097).toNat
  let yearOfEra :=
    (dayOfEra - dayOfEra / 1460 + dayOfEra / 36524 - dayOfEra / 146096) / 365
  let dayOfYear := dayOfEra - (365 * yearOfEra + yearOfEra / 4 - yearOfEra / 100)
  let march := (5 * dayOfYear + 2) / 153
  let month := if march < 10 then march + 3 else march - 9
  { year := yearOfEra + era * 400 + if month ≤ 2 then 1 else 0
    month := month
    day := dayOfYear - (153 * march + 2) / 5 + 1 }

namespace Instant

open Text

/-- Four digits; a year outside 0 to 9999 always shows its sign. -/
def yearText (year : Int) : List Char :=
  if 0 ≤ year ∧ year ≤ 9999 then padded 4 year.natAbs
  else (if year < 0 then '-' else '+') :: padded 4 year.natAbs

/-- The fewest of none, three, six and nine digits that are exact. -/
def fractionText (nano : Nat) : List Char :=
  if nano = 0 then []
  else if nano % 1000000 = 0 then '.' :: padded 3 (nano / 1000000)
  else if nano % 1000 = 0 then '.' :: padded 6 (nano / 1000)
  else '.' :: padded 9 nano

/-- A leap second is written as second 60. -/
def localText (i : Instant) : List Char :=
  let date := Date.ofDay i.day
  yearText date.year ++ '-' :: padded 2 date.month ++ '-' :: padded 2 date.day ++
    'T' :: padded 2 (i.second / 3600) ++ ':' :: padded 2 (i.second / 60 % 60) ++
    ':' :: padded 2 (i.second % 60 + i.nano / 1000000000) ++ fractionText (i.nano % 1000000000)

def rfc3339 (i : Instant) : String :=
  String.ofList (i.localText ++ ['+', '0', '0', ':', '0', '0'])

def zulu (i : Instant) : String :=
  String.ofList (i.localText ++ ['Z'])

end Instant
end SensorRelay
