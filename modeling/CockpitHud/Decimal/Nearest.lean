import CockpitHud.Decimal.Binary

namespace CockpitHud.Decimal

/-- Whether the fraction, as a double, has a greater pattern than this one. -/
def passes (numerator denominator pattern : Nat) : Bool :=
  let twice := 2 * (numerator <<< 1074)
  let bound := middle pattern * denominator
  bound < twice || (bound == twice && pattern % 2 == 1)

/-- The least of the patterns `start` to `start + 2 ^ depth` that the fraction does not pass. -/
def search (numerator denominator : Nat) : Nat → Nat → Nat
  | 0, start => if passes numerator denominator start then start + 1 else start
  | depth + 1, start =>
    if passes numerator denominator (start + 1 <<< depth) then
      search numerator denominator depth (start + 1 <<< depth)
    else search numerator denominator depth start

/-- The magnitude nearest to a fraction, of two equally near ones the one with an even pattern;
infinity from the middle above the greatest finite one. -/
def nearest (numerator denominator : Nat) : Nat :=
  min infinity (search numerator denominator 63 0)

/-- The magnitude nearest to `coefficient * 10 ^ exponent`. Exponents far outside the range of
doubles are settled by size alone. -/
def nearestScaled (coefficient : Nat) (exponent : Int) : Nat :=
  if coefficient = 0 then 0
  else if 400 < exponent then infinity
  else if exponent + coefficient.log2 < -1100 then 0
  else if 0 ≤ exponent then nearest (coefficient * Nat.pow 10 exponent.toNat) 1
  else nearest coefficient (Nat.pow 10 (-exponent).toNat)

end CockpitHud.Decimal
