import SailSim.Binary64.Basic

/-!
# Inverse tangent and inverse sine

`atan` reduces its argument to `[0, 0.66]` by the identities `atan x = π/2 - atan (1/x)` and
`atan x = π/4 + atan ((x-1)/(x+1))`, and evaluates a rational function of degree 4 over 5 in
`x²` there (Cephes' coefficients); the constants `π/2` and `π/4` carry a correction term
that restores the bits lost in their rounding. `atan2` and `asin` are built on it.
-/

namespace SailSim.Elementary

open Binary64

/-- `π` rounded to binary64. -/
def pi : Float := Float.ofBits 0x400921fb54442d18

/-- `π/2` rounded to binary64. -/
def halfPi : Float := Float.ofBits 0x3ff921fb54442d18

/-- `3π/4` rounded to binary64. -/
def threeQuarterPi : Float := Float.ofBits 0x4002d97c7f3321d2

/-- The part of `π/2` lost in rounding it. -/
def halfPiTail : Float := 6.123233995736765886130e-17

/-- `tan (3π/8)`, where the reduction switches to `1/x`. -/
def tanThreeEighthsPi : Float := 2.41421356237309504880

/-- `atan x` for `x` in `[0, 0.66]`. -/
def atanKernel (x : Float) : Float :=
  let z := x * x
  let z := z * ((((-8.750608600031904122785e-01 * z + -1.615753718733365076637e+01) * z
      + -7.500855792314704667340e+01) * z + -1.228866684490136173410e+02) * z
      + -6.485021904942025371773e+01) /
    (((((z + 2.485846490142306297962e+01) * z + 1.650270098316988542046e+02) * z
      + 4.328810604912902668951e+02) * z + 4.853903996359136964868e+02) * z
      + 1.945506571482613964425e+02)
  x * z + x

/-- `atan x` for `x ≥ 0`, reduced to `atanKernel`. -/
def atanNonneg (x : Float) : Float :=
  if x ≤ 0.66 then atanKernel x
  else if x > tanThreeEighthsPi then halfPi - atanKernel (1 / x) + halfPiTail
  else quarterPi' + atanKernel ((x - 1) / (x + 1)) + 0.5 * halfPiTail
where
  quarterPi' : Float := Float.ofBits 0x3fe921fb54442d18

/-- The inverse tangent of `x`; `atan ±0 = ±0`. -/
def atan (x : Float) : Float :=
  if x == 0 then x
  else if x > 0 then atanNonneg x
  else -atanNonneg (-x)

/-- The angle of the point `(x, y)` from the positive `x` axis, in `(-π, π]`, with the
signed zeros and infinities placed as IEEE 754 prescribes. -/
def atan2 (y x : Float) : Float :=
  if y.isNaN || x.isNaN then 0.0 / 0.0
  else if y == 0 then
    if x ≥ 0 && !signBit x then copySign 0 y else copySign pi y
  else if x == 0 then copySign halfPi y
  else if x.isInf then
    if x > 0 then (if y.isInf then copySign (Float.ofBits 0x3fe921fb54442d18) y else copySign 0 y)
    else (if y.isInf then copySign threeQuarterPi y else copySign pi y)
  else if y.isInf then copySign halfPi y
  else
    let q := atan (y / x)
    if x < 0 then (if q ≤ 0 then q + pi else q - pi) else q

/-- The inverse sine of `x`, NaN outside `[-1, 1]`; `asin ±0 = ±0`. -/
def asin (x : Float) : Float :=
  if x == 0 then x
  else
    let neg := x < 0
    let a := if neg then -x else x
    if a > 1 then 0.0 / 0.0
    else
      let t := Float.sqrt (1 - a * a)
      let t := if a > 0.7 then halfPi - atanNonneg (t / a) else atanNonneg (a / t)
      if neg then -t else t

end SailSim.Elementary
