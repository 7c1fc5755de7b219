import SailSim.Elementary.Trig
import SailSim.Elementary.Arc
import SailSim.Binary64.Remainder

/-!
# The number type of the dynamics

The boat's dynamics are written once, over a type `α` with `[Scalar α]`: the field
operations, the order tests, and the functions the model calls (square root, sine, cosine,
inverse tangent and sine, the truncated remainder, `max` and `min`, the constant `π`, and the
conversion of a number of microseconds to a 64-bit word).

`Float` is the instance that runs. Its operations are binary64 arithmetic, its functions are
those of `SailSim.Elementary` and `Binary64.truncRem`, and its `max` and `min` propagate NaN
and order `-0 < +0`. An instance over the real numbers reads every operation exactly; the
physical laws of the model are stated there.
-/

namespace SailSim

/-- Numbers the dynamics are computed in. -/
class Scalar (α : Type) extends Add α, Sub α, Mul α, Div α, Neg α, LT α, LE α where
  /-- The natural number `n`. -/
  ofNat : Nat → α
  /-- The decimal `m · 10^(-e)` when the flag is set, else `m · 10^e`. -/
  ofScientific : Nat → Bool → Nat → α
  /-- Deciding `a < b`. -/
  decLt : (a b : α) → Decidable (a < b)
  /-- Deciding `a ≤ b`. -/
  decLe : (a b : α) → Decidable (a ≤ b)
  /-- Numeric equality: false when either side is NaN, true for the two zeros. -/
  beq : α → α → Bool
  /-- Absolute value. -/
  abs : α → α
  /-- The larger of two values. -/
  max : α → α → α
  /-- The smaller of two values. -/
  min : α → α → α
  /-- Square root. -/
  sqrt : α → α
  /-- Sine of an angle in radians. -/
  sin : α → α
  /-- Cosine of an angle in radians. -/
  cos : α → α
  /-- Inverse tangent. -/
  atan : α → α
  /-- Angle of the point `(x, y)`, argument order `atan2 y x`. -/
  atan2 : α → α → α
  /-- Inverse sine. -/
  asin : α → α
  /-- Remainder of the truncated division of the first argument by the second. -/
  truncRem : α → α → α
  /-- The constant `π`. -/
  pi : α
  /-- The nearest integer, halves away from zero, as a 64-bit word: an integer in
  `[-2^63, 2^64)` is taken modulo `2^64`, anything else (NaN, an infinity, a value out of
  range) gives `2^63`. -/
  nearestWord : α → UInt64

namespace Scalar

variable {α : Type} [Scalar α]

instance (priority := low) instOfNatScalar {n : Nat} : OfNat α n := ⟨Scalar.ofNat n⟩

instance (priority := low) instOfScientificScalar : OfScientific α := ⟨Scalar.ofScientific⟩

instance (priority := low) instBEqScalar : BEq α := ⟨Scalar.beq⟩

instance (priority := low) instDecLtScalar (a b : α) : Decidable (a < b) := Scalar.decLt a b

instance (priority := low) instDecLeScalar (a b : α) : Decidable (a ≤ b) := Scalar.decLe a b

/-- `v` bounded to `[lo, hi]` as `min (max v lo) hi`. -/
def clamp (v lo hi : α) : α := Scalar.min (Scalar.max v lo) hi

/-- Degrees to radians, `d · π / 180`. -/
def radians (d : α) : α := d * Scalar.pi / 180

/-- Radians to degrees, `r · 180 / π`. -/
def degrees (r : α) : α := r * 180 / Scalar.pi

/-- `-1` for negative values and `1` otherwise, zeros and NaN included. -/
def signum (v : α) : α := if v < 0 then -1 else 1

end Scalar

namespace Binary64

/-- The larger value: `+∞` if either is, else NaN if either is NaN, `+0` of two zeros of
different sign, else the greater. -/
def max (x y : Float) : Float :=
  if (x.isInf && x > 0) || (y.isInf && y > 0) then 1.0 / 0.0
  else if x.isNaN || y.isNaN then 0.0 / 0.0
  else if x == 0 && x == y then (if signBit x then y else x)
  else if x > y then x else y

/-- The smaller value: `-∞` if either is, else NaN if either is NaN, `-0` of two zeros of
different sign, else the lesser. -/
def min (x y : Float) : Float :=
  if (x.isInf && x < 0) || (y.isInf && y < 0) then -1.0 / 0.0
  else if x.isNaN || y.isNaN then 0.0 / 0.0
  else if x == 0 && x == y then (if signBit x then x else y)
  else if x < y then x else y

end Binary64

/-- Binary64 arithmetic with the functions of `SailSim.Elementary`. -/
instance instScalarFloat : Scalar Float where
  ofNat n := Float.ofNat n
  ofScientific := Float.ofScientific
  decLt := Float.decLt
  decLe := Float.decLe
  beq a b := a == b
  abs := Float.abs
  max := Binary64.max
  min := Binary64.min
  sqrt := Float.sqrt
  sin := Elementary.sin
  cos := Elementary.cos
  atan := Elementary.atan
  atan2 := Elementary.atan2
  asin := Elementary.asin
  truncRem := Binary64.truncRem
  pi := Elementary.pi
  nearestWord := Binary64.roundToWord

end SailSim
