import SailSim.Binary64.Basic

/-!
# The truncated remainder

`truncRem x y` is `x - n·y` for the integer `n` that truncates `x / y`, computed exactly: the
result has the sign of `x`, its magnitude is below `|y|`, and it is always representable, so
no rounding happens. On the integer views of `Binary64.Basic` it is the remainder of two
integers scaled to a common binary exponent.

NaN operands, an infinite `x` and a zero `y` give NaN; an infinite `y` leaves `x` unchanged.
-/

namespace SailSim.Binary64

/-- Remainder of `|x|` by `|y|` for finite nonzero `y`, as an integer view. -/
def remMagnitude (x y : Float) : Nat × Int :=
  let (mx, qx) := magnitude x
  let (my, qy) := magnitude y
  let q := min qx qy
  let a := mx * Nat.pow 2 (qx - q).toNat
  let b := my * Nat.pow 2 (qy - q).toNat
  (a % b, q)

/-- The exact remainder of `x` by `y` after truncated division, with the sign of `x`. -/
def truncRem (x y : Float) : Float :=
  if y == 0 || x.isInf || x.isNaN || y.isNaN then 0.0 / 0.0
  else if y.isInf then x
  else
    let (r, q) := remMagnitude x y
    ofSigned (signBit x) r q

end SailSim.Binary64
