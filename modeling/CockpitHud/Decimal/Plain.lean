import CockpitHud.Decimal.Shortest

namespace CockpitHud.Decimal

def signText (negative : Bool) : List Char :=
  if negative then ['-'] else []

/-- Digits with a point in front of the last `places` of them, zeros filled in as needed. -/
def withPoint (digits : List Char) (places : Nat) : List Char :=
  if digits.length ≤ places then
    '0' :: '.' :: (List.replicate (places - digits.length) '0' ++ digits)
  else digits.take (digits.length - places) ++ '.' :: digits.drop (digits.length - places)

def GridPoint.text (point : GridPoint) : List Char :=
  let digits := Nat.toDigits 10 point.coefficient
  if 1074 ≤ point.scale then digits ++ List.replicate (point.scale - 1074) '0'
  else withPoint digits (1074 - point.scale)

def magnitudeText (pattern : Nat) : List Char :=
  if pattern = 0 then ['0']
  else if pattern < infinity then (shortest pattern).text
  else "inf".toList

/-- The shortest digits that read back, always in positional form. -/
def plain (x : Float) : List Char :=
  let parts := Parts.of x
  if infinity < parts.magnitude then "NaN".toList
  else signText parts.negative ++ magnitudeText parts.magnitude

/-- A quotient rounded to a whole number, a half to the even one. -/
def roundDiv (numerator denominator : Nat) : Nat :=
  let quotient := numerator / denominator
  let twice := 2 * (numerator % denominator)
  if denominator < twice || (twice == denominator && quotient % 2 == 1) then quotient + 1
  else quotient

/-- The exact value rounded to a whole number. A zero keeps its sign. -/
def whole (x : Float) : List Char :=
  let parts := Parts.of x
  if infinity < parts.magnitude then "NaN".toList
  else signText parts.negative ++
    (if parts.magnitude = infinity then "inf".toList
    else Nat.toDigits 10 (roundDiv (units parts.magnitude) (1 <<< 1074)))

end CockpitHud.Decimal
