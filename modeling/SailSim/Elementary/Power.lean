import SailSim.Elementary.ExpLog

/-!
# Half-integer powers and the hypotenuse

`powHalf x k` is `x^(k/2)`. The exponents `0`, `1/2` and `1` are answered exactly (`1`, the
square root and `x`). Otherwise the fractional half, if any, is `exp (log x / 2)`, and the
integer part is taken by binary exponentiation on the mantissa and exponent of `x` kept
apart: with `x = x₁ · 2^e` and `x₁` in `[1/2, 1)`, each bit of the exponent squares `x₁`,
doubles `e` and renormalises `x₁` to `[1/2, 1)`, so no intermediate product overflows or
underflows; the exponent is applied once at the end.

`hypot p q` is `√(p² + q²)` as `max · √(1 + (min/max)²)`, which stays finite whenever the
result is.
-/

namespace SailSim.Elementary

/-- The binary exponentiation loop: `i` is what is left of the exponent, `(a, ae)` the
product so far as mantissa and exponent, `(x, xe)` the current square of the base. A run of
exponents past `±4096` ends the loop, since the result is then out of range anyway. -/
def powBits (i : Nat) (a : Float) (ae : Int) (x : Float) (xe : Int) : Float × Int :=
  if i = 0 then (a, ae)
  else if xe < -4096 || 4096 < xe then (a, ae + xe)
  else
    let (a, ae) := if i % 2 = 1 then (a * x, ae + xe) else (a, ae)
    let x := x * x
    let xe := 2 * xe
    let (x, xe) := if x < 0.5 then (x + x, xe - 1) else (x, xe)
    powBits (i / 2) a ae x xe
termination_by i
decreasing_by omega

/-- `x^(k/2)`. For negative `x` an odd `k` gives NaN and an even `k` the power of `|x|`
with the sign of `x^(k/2)`; a zero or infinite `x` keeps its sign exactly when `k/2` is an odd
integer. -/
def powHalf (x : Float) (k : Nat) : Float :=
  if k = 0 || x == 1 then 1
  else if x.isNaN then x
  else if k = 2 then x
  else if x == 0 then (if k % 4 = 2 then x else 0)
  else if x.isInf then (if x < 0 && k % 4 = 2 then x else 1.0 / 0.0)
  else if k = 1 then Float.sqrt x
  else if x < 0 && k % 2 = 1 then 0.0 / 0.0
  else
    let a := if k % 2 = 1 then exp (0.5 * log x) else 1
    let (m, e) := frexp (if x < 0 then -x else x)
    let m := if x < 0 then -m else m
    let (a, ae) := powBits (k / 2) a 0 m e
    Float.scaleB a ae

/-- The length of `(p, q)`, `max · √(1 + (min/max)²)`; infinite if either is, NaN if either
is NaN and neither infinite. -/
def hypot (p q : Float) : Float :=
  let p := Float.abs p
  let q := Float.abs q
  if p.isInf || q.isInf then 1.0 / 0.0
  else if p.isNaN || q.isNaN then 0.0 / 0.0
  else
    let (p, q) := if p < q then (q, p) else (p, q)
    if p == 0 then 0
    else
      let q := q / p
      p * Float.sqrt (1 + q * q)

end SailSim.Elementary
