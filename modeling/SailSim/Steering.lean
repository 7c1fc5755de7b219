import SailSim.Scalar

/-!
# Steering

The rudder pulse maps linearly onto a steering fraction, -1 at 1000 µs and 1 at 2000 µs. A
steering fraction `s` turns the boat on a circle of diameter
`turningCircle · sin(maxAngle) / sin(s · maxAngle)`, so full rudder turns on the configured
circle, and at forward speed `v` the yaw rate is one lap of that circle per `π·d/v` seconds.
Fractions and speeds within `1.1920929e-07` of zero count as zero and give no turn.
-/

namespace SailSim

/-- The boat's turning geometry. -/
structure Kinematics (α : Type) where
  /-- Rudder deflection at full steering, degrees. -/
  maxAngle : α
  /-- Turning circle diameter at full steering, metres. -/
  turningCircle : α

namespace Kinematics

variable {α : Type} [Scalar α]

/-- The stock geometry: 35° of rudder, a 1.8 m turning circle. -/
def default : Kinematics α := ⟨35, 1.8⟩

/-- Values this close to zero count as zero. -/
def zeroEpsilon : α := 1.1920929e-07

/-- Whether `v` counts as zero. -/
def nearZero (v : α) : Bool := decide (Scalar.abs v < zeroEpsilon)

/-- The steering fraction of a rudder pulse width. -/
def fraction (pwm : Nat) : α := 2 * ((Scalar.ofNat pwm - 1000) / 1000 - 0.5)

/-- The turning circle diameter in metres for a steering fraction, 0 for no steering. -/
def turnCircle (k : Kinematics α) (s : α) : α :=
  if nearZero s then 0
  else
    let maxRad := Scalar.radians k.maxAngle
    k.turningCircle * Scalar.sin maxRad / Scalar.sin (Scalar.radians (s * k.maxAngle))

/-- The yaw rate in degrees per second for a steering fraction and a forward speed. -/
def yawRate (k : Kinematics α) (s speed : α) : α :=
  if nearZero s || nearZero speed then 0
  else
    let d := k.turnCircle s
    let lap := Scalar.pi * d / speed
    360 / lap

/-- The centripetal acceleration in m/s² for a steering fraction and a speed. -/
def lateralAccel (k : Kinematics α) (s speed : α) : α :=
  Scalar.radians (k.yawRate s speed) * speed

end Kinematics

end SailSim
