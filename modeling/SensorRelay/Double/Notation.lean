import SensorRelay.Double.Shortest
import SensorRelay.Text.Numeral

/-!
# Writing doubles

Two notations of the shortest digits: positional, for people, and the number literals of JSON.
-/

namespace SensorRelay

namespace Decimal

/-- The digits and the position of the decimal point after the first digit's left edge. -/
def layout (d : Decimal) : List Char × Int :=
  let ds := Nat.toDigits 10 d.digits
  (ds, d.exponent + ds.length)

def positional (d : Decimal) (tail : List Char) : List Char :=
  let (ds, point) := d.layout
  if point ≤ 0 then '0' :: '.' :: (List.replicate point.natAbs '0' ++ ds)
  else if (ds.length : Int) ≤ point then
    ds ++ List.replicate (point.natAbs - ds.length) '0' ++ tail
  else ds.take point.natAbs ++ '.' :: ds.drop point.natAbs

def scientific (d : Decimal) : List Char :=
  let (ds, point) := d.layout
  let exponent := point - 1
  ds.take 1 ++ (if ds.length = 1 then [] else '.' :: ds.drop 1) ++
    'e' :: (if exponent < 0 then '-' else '+') :: Nat.toDigits 10 exponent.natAbs

end Decimal

namespace Double

/-- Positional notation for people: never an exponent, and no point in an integer. A tie goes up. -/
def text (x : Double) : String :=
  if x.isNaN then "NaN"
  else
    let sign := if x.isNegative then ['-'] else []
    if !x.isFinite then String.ofList (sign ++ ['i', 'n', 'f'])
    else String.ofList (sign ++ if x.isZero then ['0'] else (x.shortest .upper).positional [])

def positionalExponents : Int × Int := (-5, 15)

/-- A JSON number literal, always with a point or an exponent; `null` if the double is not
finite. A tie goes to the even digit. -/
def json (x : Double) : String :=
  if !x.isFinite then "null"
  else
    let sign := if x.isNegative then ['-'] else []
    let digits :=
      if x.isZero then ['0', '.', '0']
      else
        let d := x.shortest .even
        let exponent := d.layout.2 - 1
        if positionalExponents.1 ≤ exponent ∧ exponent ≤ positionalExponents.2 then
          d.positional ['.', '0']
        else d.scientific
    String.ofList (sign ++ digits)

end Double
end SensorRelay
