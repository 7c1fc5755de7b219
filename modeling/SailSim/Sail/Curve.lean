import SailSim.Scalar

/-!
# Coefficient curves

A `Curve` is a list of breakpoints `(angle, coefficient)` in degrees. `Curve.lookup` reads
it at the absolute value of the angle wrapped into `[-180, 180]`, so every curve is
symmetric: flat at the first coefficient from 0 up to the first breakpoint, linear between
consecutive breakpoints, flat at the last coefficient past the last one, and 0 for the empty
curve.

`wrapDeg180` leaves angles in `[-180, 180]` unchanged and reduces the others by a multiple of
360.
-/

namespace SailSim

/-- A breakpoint of a coefficient curve. -/
structure Breakpoint (α : Type) where
  angle : α
  coefficient : α
  deriving Repr

/-- A coefficient curve: breakpoints in the order they are searched. -/
abbrev Curve (α : Type) := List (Breakpoint α)

namespace Curve

variable {α : Type} [Scalar α]

/-- An angle in degrees wrapped into `[-180, 180]`. -/
def wrapDeg180 (deg : α) : α :=
  if deg ≥ -180 && deg ≤ 180 then deg
  else
    let w := Scalar.truncRem (deg + 180) 360
    let w := if w < 0 then w + 360 else w
    w - 180

/-- The straight line through `lo` and `hi` at `a`, or `hi`'s coefficient when the span
is not positive. -/
def interpolate (a : α) (lo hi : Breakpoint α) : α :=
  let span := hi.angle - lo.angle
  if span ≤ 0 then hi.coefficient
  else
    let f := (a - lo.angle) / span
    lo.coefficient + f * (hi.coefficient - lo.coefficient)

/-- The segment search: the first breakpoint at or past `a` and its predecessor. -/
def search (a : α) (last : α) : Breakpoint α → List (Breakpoint α) → α
  | _, [] => last
  | prev, p :: rest => if a ≤ p.angle then interpolate a prev p else search a last p rest

/-- The coefficient at the absolute value of `angle` wrapped into `[-180, 180]`. -/
def lookup (t : Curve α) (angle : α) : α :=
  match t with
  | [] => 0
  | first :: rest =>
    let a := Scalar.abs (wrapDeg180 angle)
    if a ≤ first.angle then
      if first.angle ≤ 0 then first.coefficient
      else interpolate a ⟨0, first.coefficient⟩ first
    else
      let last := (rest.getLast?).getD first
      if a ≥ last.angle then last.coefficient
      else search a last.coefficient first rest

/-- Builds a curve from `(angle, coefficient)` pairs. -/
def ofPairs (ps : List (α × α)) : Curve α := ps.map fun (a, c) => ⟨a, c⟩

/-- The lift coefficient of the sail against the angle of attack. -/
def lift : Curve α := ofPairs
  [(0, 0), (10, 0.5), (20, 1), (30, 1.1), (40, 0.95), (50, 0.75), (60, 0.6), (70, 0.4),
   (80, 0.2), (90, 0), (100, -0.2), (110, -0.4), (120, -0.6), (130, -0.75), (140, -0.95),
   (150, -1.1), (160, -1), (170, -0.5)]

/-- The drag coefficient of the sail against the angle of attack. -/
def drag : Curve α := ofPairs
  [(0, 0.1), (10, 0.1), (20, 0.2), (30, 0.4), (40, 0.8), (50, 1.2), (60, 1.5), (70, 1.7),
   (80, 1.9), (90, 1.95), (100, 1.9), (110, 1.7), (120, 1.5), (130, 1.2), (140, 0.8),
   (150, 0.4), (160, 0.2), (170, 0.1)]

end Curve

end SailSim
