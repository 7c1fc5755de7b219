import SailSim.Binary64.Basic

/-!
# Exponential and logarithm

`exp x` splits `x = n·ln 2 + r` with `n` the nearest integer to `x·log₂ e` (ties to even)
and `ln 2` in two parts, so `r` is computed almost exactly. It then takes `e^(r/16) - 1`
from its Taylor polynomial of degree 8 by Horner's rule, squares its way back to `e^r - 1` by
`(2 + u)·u` four times, adds 1 and scales by `2^n`.

`log x` writes `x = 2^k · f` with `f` in `[√2/2, √2)`, and evaluates `log f` through
`s = (f-1)/(f+1)` with a polynomial in `s²` (the method of fdlibm).
-/

namespace SailSim.Elementary

open Binary64

/-- `log₂ e` rounded to binary64. -/
def log2e : Float := 1.4426950408889634073599246810018920

/-- The leading part of `ln 2`, with trailing zero bits so that `n·ln2Upper` is exact. -/
def ln2Upper : Float := 0.69314718055966295651160180568695068359375

/-- The rest of `ln 2` after `ln2Upper`. -/
def ln2Lower : Float := 0.28235290563031577122588448175013436025525412068e-12

/-- Largest argument whose exponential is finite. -/
def expOverflow : Float := 7.09782712893384e+02

/-- The nearest integer to a finite `t`, a tie going to the even one. -/
def roundHalfEvenInt (t : Float) : Int :=
  let f := Float.floor t
  let d := t - f
  let fi := truncInt f
  if d < 0.5 then fi else if d > 0.5 then fi + 1 else if fi % 2 = 0 then fi else fi + 1

/-- The natural exponential. -/
def exp (x : Float) : Float :=
  if x.isNaN then x
  else if x.isInf then (if x > 0 then x else 0)
  else if x > expOverflow then 1.0 / 0.0
  else
    let n := roundHalfEvenInt (log2e * x)
    let fn := Float.ofInt n
    let r := x - fn * ln2Upper
    let r := r - fn * ln2Lower
    let r := r * 0.0625
    let p := 2.4801587301587301587e-5
    let p := p * r + 1.9841269841269841270e-4
    let p := p * r + 1.3888888888888888889e-3
    let p := p * r + 8.3333333333333333333e-3
    let p := p * r + 4.1666666666666666667e-2
    let p := p * r + 1.6666666666666666667e-1
    let p := p * r + 0.5
    let p := p * r + 1
    let u := p * r
    let u := (2 + u) * u
    let u := (2 + u) * u
    let u := (2 + u) * u
    let u := (2 + u) * u
    Float.scaleB (u + 1) n

/-- The high part of `ln 2`. -/
def ln2High : Float := 6.93147180369123816490e-01

/-- The low part of `ln 2`. -/
def ln2Low : Float := 1.90821492927058770002e-10

/-- The coefficients of the logarithm's polynomial in `s²`, lowest degree first. -/
def logCoeffs : Array Float :=
  #[6.666666666666735130e-01, 3.999999999940941908e-01, 2.857142874366239149e-01,
    2.222219843214978396e-01, 1.818357216161805012e-01, 1.531383769920937332e-01,
    1.479819860511658591e-01]

/-- `√2/2`, where the logarithm's reduced argument starts. -/
def halfSqrt2 : Float := 0.70710678118654752440

/-- A normal or subnormal positive `x` as `f · 2^k` with `f` in `[1/2, 1)`. -/
def frexp (x : Float) : Float × Int :=
  let (m, q) := magnitude x
  let bits := m.log2 + 1
  (ofMagnitude m (-(bits : Int)), q + bits)

/-- The natural logarithm; `log 0 = -∞`, NaN for negative arguments. -/
def log (x : Float) : Float :=
  if x.isNaN || (x.isInf && x > 0) then x
  else if x < 0 then 0.0 / 0.0
  else if x == 0 then -1.0 / 0.0
  else
    let (f1, ki) := frexp x
    let (f1, ki) := if f1 < halfSqrt2 then (f1 * 2, ki - 1) else (f1, ki)
    let f := f1 - 1
    let k := Float.ofInt ki
    let s := f / (2 + f)
    let s2 := s * s
    let s4 := s2 * s2
    let t1 := s2 * (logCoeffs[0]! + s4 * (logCoeffs[2]! + s4 * (logCoeffs[4]! + s4 * logCoeffs[6]!)))
    let t2 := s4 * (logCoeffs[1]! + s4 * (logCoeffs[3]! + s4 * logCoeffs[5]!))
    let r := t1 + t2
    let hfsq := 0.5 * f * f
    k * ln2High - ((hfsq - (s * (hfsq + r) + k * ln2Low)) - f)

end SailSim.Elementary
