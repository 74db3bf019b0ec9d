namespace CockpitHud

namespace Logarithm

def ln2High : Float := Float.ofBits 0x3fe62e42fee00000
def ln2Low : Float := Float.ofBits 0x3dea39ef35793c76
def c1 : Float := Float.ofBits 0x3fe5555555555593
def c2 : Float := Float.ofBits 0x3fd999999997fa04
def c3 : Float := Float.ofBits 0x3fd2492494229359
def c4 : Float := Float.ofBits 0x3fcc71c51d8e78af
def c5 : Float := Float.ofBits 0x3fc7466496cb03de
def c6 : Float := Float.ofBits 0x3fc39a09d078c69f
def c7 : Float := Float.ofBits 0x3fc2f112df3e5244

/-- The logarithm of `2 ^ k * (1 + f)`, with `1 + f` within a factor of the square root of two
around one. The order of the operations fixes the last bit. -/
def ofReduced (k : Int) (f : Float) : Float :=
  let halfSquare := 0.5 * f * f
  let s := f / (2.0 + f)
  let z := s * s
  let w := z * z
  let even := w * (c2 + w * (c4 + w * c6))
  let odd := z * (c1 + w * (c3 + w * (c5 + w * c7)))
  let r := odd + even
  let exponent := Float.ofInt k
  s * (halfSquare + r) + exponent * ln2Low - halfSquare + f + exponent * ln2High

/-- High words at least this far into a binade count to the next power of two. -/
def rootHalf : Nat := 0x3fe6a09e

def ofPattern (bits : Nat) (shift : Int) : Float :=
  let high := bits >>> 32 + (0x3ff00000 - rootHalf)
  let k := shift + (high >>> 20 : Nat) - 0x3ff
  let reduced := (high % 0x100000 + rootHalf) <<< 32 + bits % 0x100000000
  ofReduced k (Float.ofBits (UInt64.ofNat reduced) - 1.0)

end Logarithm

/-- The natural logarithm: minus infinity at zero, not a number below. Subnormal arguments are
scaled up first. -/
def logarithm (x : Float) : Float :=
  let bits := x.toBits.toNat
  if bits % 0x8000000000000000 = 0 then -1.0 / (x * x)
  else if 0x8000000000000000 ≤ bits then (x - x) / 0.0
  else if 0x7ff0000000000000 ≤ bits then x
  else if bits = 0x3ff0000000000000 then 0.0
  else if bits < 0x0010000000000000 then
    Logarithm.ofPattern (x * Float.ofBits 0x4350000000000000).toBits.toNat (-54)
  else Logarithm.ofPattern bits 0

end CockpitHud
