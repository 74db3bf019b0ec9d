import CockpitHud.Decimal.Binary

namespace CockpitHud.Decimal

/-- A unit of 2^-1074 in units of 10^-1074. -/
def fineness : Nat := Nat.pow 5 1074

/-- Decimals between the middles below and above a magnitude, both doubled. -/
structure Interval where
  low : Nat
  high : Nat
  closed : Bool

/-- The decimals that read back as a magnitude above zero. -/
def Interval.around (pattern : Nat) : Interval :=
  ⟨middle (pattern - 1) * fineness, middle pattern * fineness, pattern % 2 == 0⟩

def Interval.holds (interval : Interval) (twice : Nat) : Bool :=
  if interval.closed then interval.low ≤ twice && twice ≤ interval.high
  else interval.low < twice && twice < interval.high

structure GridPoint where
  coefficient : Nat
  scale : Nat

/-- The multiple of `step` in the interval that is nearest to `exact`, if one of its two
neighbours is there. -/
def Interval.nearest? (interval : Interval) (exact step : Nat) : Option Nat :=
  let below := exact / step
  let near := if 2 * (exact % step) < step then below else below + 1
  let far := if 2 * (exact % step) < step then below + 1 else below
  if interval.holds (2 * near * step) then some near
  else if interval.holds (2 * far * step) then some far
  else none

/-- Goes down from grid `scale` to the first with a point in the interval. The finest has one, the
magnitude itself. -/
def Interval.coarsest (interval : Interval) (exact : Nat) : Nat → GridPoint
  | 0 => ⟨exact, 0⟩
  | scale + 1 =>
    match interval.nearest? exact (Nat.pow 10 (scale + 1)) with
    | some coefficient => ⟨coefficient, scale + 1⟩
    | none => interval.coarsest exact scale

/-- A scale whose step is greater than ten times the magnitude: 30103 / 100000 is a little more
than the decimal logarithm of two. -/
def scaleAbove (exact : Nat) : Nat :=
  exact.log2 * 30103 / 100000 + 2

/-- The fewest digits that read back as a magnitude above zero, and of these the nearest to it. -/
def shortest (pattern : Nat) : GridPoint :=
  let exact := units pattern * fineness
  (Interval.around pattern).coarsest exact (scaleAbove exact)

end CockpitHud.Decimal
