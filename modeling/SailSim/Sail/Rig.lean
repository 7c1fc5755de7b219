import SailSim.Sail.Curve
import SailSim.Controls
import SailSim.Text.Blank
import SailSim.Text.Quote

/-!
# The sail

A `Rig` is the sail's actuation, force scaling, area and air density. From the servo outputs
and the apparent wind it gives, in order:

* the sail angle: a mainsheet eases the boom from 0° to 90° over the pulse range, a wing is
  set directly between -90° and 90° about the centre pulse;
* the angle of attack: a wing meets the wind at `apparent - sail`; a sheeted sail cannot push
  past the wind, so its angle of attack is `max(|apparent| - sail, 0)` with the sign of the
  apparent wind;
* lift and drag from the coefficient curves, scaled by `v²A`, times `ρ/2` under dynamic
  pressure scaling, lift taking the sign of the angle of attack;
* forward and heel forces, the wind-frame forces rotated by the apparent wind angle.
-/

namespace SailSim

/-- How the sail is actuated. -/
inductive SailKind where
  /-- Trimmed by a sheet: the winch sets the largest boom angle. -/
  | mainsail
  /-- A wing sail whose angle a servo sets directly. -/
  | wing
  deriving Repr, BEq, DecidableEq

namespace SailKind

/-- The kind with configuration code `n`: 0 is the mainsail, 1 the wing. -/
def ofCode? : Int → Option SailKind
  | 0 => some .mainsail
  | 1 => some .wing
  | _ => none

/-- The configuration code. -/
def code : SailKind → Int
  | .mainsail => 0
  | .wing => 1

/-- The name of configuration code `n`, `Type(n)` for codes of no kind. -/
def codeName (n : Int) : String :=
  match ofCode? n with
  | some .mainsail => "mainsail"
  | some .wing => "wing"
  | none => "Type(" ++ toString n ++ ")"

/-- The kind named by a setting word, case and surrounding blanks ignored. -/
def parse? (s : String) : Option SailKind :=
  match Text.asciiLower (Text.trimBlank s) with
  | "" | "mainsail" | "sheet" | "0" => some .mainsail
  | "wing" | "directwing" | "direct_wing" | "1" => some .wing
  | _ => none

/-- The message for a setting word that names no sail kind. -/
def unknownMessage (s : String) : String := "unknown sail type " ++ Text.quote s

/-- The fault of asking an unknown kind for a sail angle or angle of attack. -/
def unknownFault (n : Int) : String := "sail: unknown type " ++ toString n

end SailKind

/-- Force scaling by code: code 0 scales by dynamic pressure `ρv²A/2`, any other code by
`v²A` alone. -/
structure ForceScaling where
  code : Int
  deriving Repr, BEq, DecidableEq

namespace ForceScaling

/-- Scaling by dynamic pressure. -/
def si : ForceScaling := ⟨0⟩
/-- Scaling by `v²A`. -/
def quasi : ForceScaling := ⟨1⟩

/-- Whether forces are scaled by dynamic pressure. -/
def isSI (s : ForceScaling) : Bool := s.code == 0

/-- The setting word: `quasi` for code 1 and `si` for every other code. -/
def name (s : ForceScaling) : String := if s.code == 1 then "quasi" else "si"

/-- The scaling named by a setting word. -/
def parse? (s : String) : Option ForceScaling :=
  match Text.asciiLower (Text.trimBlank s) with
  | "" | "si" => some si
  | "quasi" => some quasi
  | _ => none

/-- The message for a setting word that names no scaling. -/
def unknownMessage (s : String) : String := "unknown force scaling " ++ Text.quote s

end ForceScaling

/-- The sail's configuration. -/
structure Rig (α : Type) where
  kind : SailKind
  scaling : ForceScaling
  area : α
  airDensity : α

/-- Lift, normal to the apparent wind, and drag, along it. -/
structure LiftDrag (α : Type) where
  lift : α
  drag : α

/-- The outcome of one sail force evaluation. -/
structure SailForces (α : Type) where
  /-- Sail angle in the body frame, degrees. -/
  sailAngle : α
  /-- Signed angle of attack, degrees. -/
  aoa : α
  lift : α
  drag : α
  /-- Force along the body's forward axis. -/
  forward : α
  /-- Force along the body's right axis. -/
  heel : α

namespace Rig

variable {α : Type} [Scalar α]

/-- The sail angle in degrees commanded by the servo outputs. -/
def sailAngle (r : Rig α) (c : Controls) : α :=
  match r.kind with
  | .mainsail =>
    let pwm : α := Scalar.ofNat (c.get Controls.mainsailChannel).toNat
    Scalar.clamp ((pwm - 1000) / 1000 * 90) 0 90
  | .wing =>
    let pwm : α := Scalar.ofNat (c.get Controls.wingChannel).toNat
    Scalar.clamp ((pwm - 1500) / 500 * 90) (-90) 90

/-- The signed angle of attack for an apparent wind angle and a sail angle, in degrees. -/
def angleOfAttack (r : Rig α) (apparent sail : α) : α :=
  match r.kind with
  | .wing => apparent - sail
  | .mainsail => Scalar.max (Scalar.abs apparent - sail) 0 * Scalar.signum apparent

/-- Lift and drag for an apparent wind speed and a signed angle of attack. -/
def liftDrag (r : Rig α) (windSpeed aoa : α) : LiftDrag α :=
  let a := Curve.wrapDeg180 aoa
  let cl := Curve.lift.lookup a
  let cd := Curve.drag.lookup a
  let k := windSpeed * windSpeed * r.area
  let k := if r.scaling.isSI then k * (0.5 * r.airDensity) else k
  let lift := cl * k
  ⟨if a < 0 then -lift else lift, cd * k⟩

/-- Forward and heel forces of wind-frame lift and drag for the apparent wind at
`apparent` degrees off the bow. -/
def resolve (f : LiftDrag α) (apparent : α) : α × α :=
  let t := apparent * Scalar.pi / 180
  let s := Scalar.sin t
  let c := Scalar.cos t
  (f.lift * s - f.drag * c, f.lift * c + f.drag * s)

/-- The full sail evaluation for one step. -/
def forces (r : Rig α) (c : Controls) (apparent windSpeed : α) : SailForces α :=
  let angle := r.sailAngle c
  let aoa := r.angleOfAttack apparent angle
  let ld := r.liftDrag windSpeed aoa
  let (fwd, heel) := resolve ld apparent
  ⟨angle, aoa, ld.lift, ld.drag, fwd, heel⟩

end Rig

end SailSim
