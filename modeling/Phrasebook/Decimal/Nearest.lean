import Phrasebook.Text.Scan

/-!
# The double nearest to a decimal
-/

namespace Phrasebook.Decimal

open Phrasebook.Text

/-- The scale beyond which every number but zero is out of the range of the doubles. -/
def maxScale : Int := 400

/-- The double nearest to the number that the digits write, times the given power of ten. Numbers
far beyond the range are told by their scale alone. -/
def nearest (digits : List Char) (scale : Int) : Float :=
  let n := digitsValue 10 0 digits
  if n = 0 then 0
  else if maxScale < scale then 1.0 / 0.0
  else if scale + digits.length < -maxScale then 0
  else Float.ofScientific n (decide (scale < 0)) scale.natAbs

/-- The double nearest to a decimal with a sign, whole digits, digits after the point, and an
exponent. -/
def nearestSigned (negative : Bool) (whole fraction : List Char) (exponent : Int) : Float :=
  let x := nearest (whole ++ fraction) (exponent - fraction.length)
  if negative then -x else x

end Phrasebook.Decimal
