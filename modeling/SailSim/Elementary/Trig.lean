import SailSim.Elementary.Reduction

/-!
# Sine, cosine and tangent

After `Elementary.Reduction` has brought the argument to an octant, sine and cosine are odd
and even polynomials in the remainder `z` (degrees 13 and 14), and the tangent a rational
function of `z²`; the octant picks the polynomial and the sign. The coefficients are the
minimax fits of the Cephes library.

Special values: `sin ±0 = ±0`, `tan ±0 = ±0`, and NaN or an infinite argument gives NaN.
-/

namespace SailSim.Elementary

/-- Coefficients of the sine polynomial, highest first. -/
def sinCoeffs : Array Float :=
  #[1.58962301576546568060e-10, -2.50507477628578072866e-8, 2.75573136213857245213e-6,
    -1.98412698295895385996e-4, 8.33333333332211858878e-3, -1.66666666666666307295e-1]

/-- Coefficients of the cosine polynomial, highest first. -/
def cosCoeffs : Array Float :=
  #[-1.13585365213876817300e-11, 2.08757008419747316778e-9, -2.75573141792967388112e-7,
    2.48015872888517045348e-5, -1.38888888888730564116e-3, 4.16666666666665929218e-2]

/-- The sine polynomial at the remainder `z`, with `zz = z²`. -/
def sinPoly (z zz : Float) : Float :=
  z + z * zz * ((((((sinCoeffs[0]! * zz) + sinCoeffs[1]!) * zz + sinCoeffs[2]!) * zz
    + sinCoeffs[3]!) * zz + sinCoeffs[4]!) * zz + sinCoeffs[5]!)

/-- The cosine polynomial at `zz = z²`. -/
def cosPoly (zz : Float) : Float :=
  1.0 - 0.5 * zz + zz * zz * ((((((cosCoeffs[0]! * zz) + cosCoeffs[1]!) * zz
    + cosCoeffs[2]!) * zz + cosCoeffs[3]!) * zz + cosCoeffs[4]!) * zz + cosCoeffs[5]!)

/-- The sine of `x`. -/
def sin (x : Float) : Float :=
  if x == 0 || x.isNaN then x
  else if x.isInf then 0.0 / 0.0
  else
    let neg := x < 0
    let (j, z) := octant (if neg then -x else x)
    let (neg, j) := if j > 3 then (!neg, j - 4) else (neg, j)
    let zz := z * z
    let y := if j == 1 || j == 2 then cosPoly zz else sinPoly z zz
    if neg then -y else y

/-- The cosine of `x`. -/
def cos (x : Float) : Float :=
  if x.isNaN || x.isInf then 0.0 / 0.0
  else
    let (j, z) := octant x.abs
    let (neg, j) := if j > 3 then (true, j - 4) else (false, j)
    let neg := if j > 1 then !neg else neg
    let zz := z * z
    let y := if j == 1 || j == 2 then sinPoly z zz else cosPoly zz
    if neg then -y else y

/-- Numerator coefficients of the tangent's rational function. -/
def tanNum : Array Float :=
  #[-1.30936939181383777646e4, 1.15351664838587416140e6, -1.79565251976484877988e7]

/-- Denominator coefficients of the tangent's rational function (leading 1 omitted). -/
def tanDen : Array Float :=
  #[1.36812963470692954678e4, -1.32089234440210967447e6, 2.50083801823357915839e7,
    -5.38695755929454629881e7]

/-- The tangent of `x`. -/
def tan (x : Float) : Float :=
  if x == 0 || x.isNaN then x
  else if x.isInf then 0.0 / 0.0
  else
    let neg := x < 0
    let (j, z) := octant (if neg then -x else x)
    let zz := z * z
    let y :=
      if zz > 1e-14 then
        z + z * (zz * (((tanNum[0]! * zz) + tanNum[1]!) * zz + tanNum[2]!) /
          ((((zz + tanDen[0]!) * zz + tanDen[1]!) * zz + tanDen[2]!) * zz + tanDen[3]!))
      else z
    let y := if j % 4 ≥ 2 then -1 / y else y
    if neg then -y else y

end SailSim.Elementary
