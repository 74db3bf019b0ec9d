namespace CockpitHud.Decimal

/-- The number of patterns from one power of two to the next: 2^52. -/
def binade : Nat := 0x10000000000000

/-- The pattern of infinity. Patterns are taken without the sign: those below are the finite
magnitudes in order of size, those above are no numbers. -/
def infinity : Nat := 2047 * binade

def notANumber : Nat := infinity + binade / 2

def signBit : Nat := 2048 * binade

/-- The size of a magnitude in units of 2^-1074. Past the finite ones the scale goes on, so that
the pattern of infinity stands where the next double would. -/
def units (pattern : Nat) : Nat :=
  if pattern < binade then pattern
  else (binade + pattern % binade) <<< (pattern / binade - 1)

/-- Twice the middle between a magnitude and the next greater one. -/
def middle (pattern : Nat) : Nat :=
  units pattern + units (pattern + 1)

structure Parts where
  negative : Bool
  magnitude : Nat

def Parts.of (x : Float) : Parts :=
  let bits := x.toBits.toNat
  ⟨signBit ≤ bits, bits % signBit⟩

def Parts.toFloat (parts : Parts) : Float :=
  Float.ofBits (UInt64.ofNat ((if parts.negative then signBit else 0) + parts.magnitude))

end CockpitHud.Decimal
