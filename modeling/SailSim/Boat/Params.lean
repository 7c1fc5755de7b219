import SailSim.Sail.Rig
import SailSim.Steering
import SailSim.Heel
import SailSim.Wave
import SailSim.Text.Number

/-!
# Boat parameters

`Params` holds every physical constant of one boat. `Params.validate` rejects, in this order,
a time step that is not positive, a mass that is not positive, a rudder angle outside
`(0°, 90°)`, a turning circle that is not positive and a negative sail area; a NaN passes
every check, since each is a comparison that NaN fails. `Params.ofCodes` then reads the sail
kind and heel policy from their configuration codes, rejecting codes of no kind or policy.
-/

namespace SailSim

/-- The physical constants of one boat. -/
structure Params (α : Type) where
  frame : String
  motor : Bool
  /-- Seconds per step. -/
  timeStep : α
  rig : Rig α
  steering : Kinematics α
  heelPolicy : HeelPolicy
  keel : Keel α
  /-- Direct-policy roll, degrees per newton. -/
  heelAngleGain : α
  waveGains : WaveGains α
  /-- kg. -/
  mass : α
  /-- N per (m/s)². -/
  hullDrag : α
  /-- N per microsecond off the centre pulse. -/
  throttleGain : α
  /-- m/s². -/
  gravity : α

/-- Why parameters are unusable. -/
inductive ParamError (α : Type) where
  | timeStep (v : α)
  | mass (v : α)
  | steeringAngleMax (v : α)
  | turningCircle (v : α)
  | sailArea (v : α)
  | sailType (code : Int)
  | heelPolicy (code : Int)
  | environmentRequired

namespace ParamError

/-- The text shared by every parameter error. -/
def headline : String := "invalid sailboat parameters"

/-- The message of a parameter error, values in the general number format. -/
def message : ParamError Float → String
  | .timeStep v => headline ++ ": time step " ++ FloatStyle.general.render v
  | .mass v => headline ++ ": mass " ++ FloatStyle.general.render v
  | .steeringAngleMax v => headline ++ ": steering angle max " ++ FloatStyle.general.render v
  | .turningCircle v => headline ++ ": turning circle " ++ FloatStyle.general.render v
  | .sailArea v => headline ++ ": sail area " ++ FloatStyle.general.render v
  | .sailType n => headline ++ ": sail type " ++ SailKind.codeName n
  | .heelPolicy n => headline ++ ": heel policy " ++ HeelPolicy.codeName n
  | .environmentRequired => headline ++ ": environment is required"

end ParamError

namespace Params

variable {α : Type} [Scalar α]

/-- The frame name of a plain sailboat. -/
def frameSailboat : String := "sailboat"

/-- The frame name of a sailboat with an auxiliary motor. -/
def frameSailboatMotor : String := "sailboat-motor"

/-- Whether a frame name carries an auxiliary motor. -/
def frameHasMotor (frame : String) : Bool := frame == frameSailboatMotor

/-- The stock sailboat stepped at 400 Hz. -/
def default : Params α where
  frame := frameSailboat
  motor := false
  timeStep := 1.0 / 400
  rig := ⟨.mainsail, ForceScaling.si, 1.0, 1.225⟩
  steering := Kinematics.default
  heelPolicy := .direct
  keel := Keel.default
  heelAngleGain := 0.05
  waveGains := WaveGains.unit
  mass := 2.0
  hullDrag := 0.5
  throttleGain := 0.1
  gravity := standardGravity

/-- The first failing numeric check, in the order time step, mass, rudder angle, turning
circle, sail area. -/
def check (p : Params α) : Option (ParamError α) :=
  if p.timeStep ≤ 0 then some (.timeStep p.timeStep)
  else if p.mass ≤ 0 then some (.mass p.mass)
  else if p.steering.maxAngle ≤ 0 || p.steering.maxAngle ≥ 90 then
    some (.steeringAngleMax p.steering.maxAngle)
  else if p.steering.turningCircle ≤ 0 then some (.turningCircle p.steering.turningCircle)
  else if p.rig.area < 0 then some (.sailArea p.rig.area)
  else none

/-- `p` if it passes every numeric check. -/
def validate (p : Params α) : Except (ParamError α) (Params α) :=
  match p.check with
  | some e => .error e
  | none => .ok p

/-- `p` with the sail kind and heel policy of the given configuration codes, checked after
the numeric checks. -/
def ofCodes (p : Params α) (sailCode policyCode : Int) : Except (ParamError α) (Params α) := do
  let p ← p.validate
  let some kind := SailKind.ofCode? sailCode | .error (.sailType sailCode)
  let some policy := HeelPolicy.ofCode? policyCode | .error (.heelPolicy policyCode)
  pure { p with rig := { p.rig with kind := kind }, heelPolicy := policy }

end Params

end SailSim
