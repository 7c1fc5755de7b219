import SailSim.Boat.Params
import SailSim.Boat.Environment

/-!
# One step of the boat

`Boat.step` advances the boat by one time step from its servo outputs and the environment,
whose wind has already been brought to the step's time. In order:

1. the apparent wind (boat velocity less wind) gives the wind speed and its angle off the bow;
2. the sail forces follow from the servos and the apparent wind;
3. the forward speed through the water sets the yaw rate, and the heel model the roll rate;
   with the swell's disturbance they form the body rates, which rotate the attitude by
   `rates · dt` before it is re-orthonormalized; under the direct heel policy the roll is
   then replaced by the heel angle;
4. hull drag, the motor and the sail's forward force accelerate the boat along its heading,
   the turn adds a lateral term, and the swell's heave sets the vertical one;
5. the velocity through the water integrates that acceleration, the tide adds to it while
   armed, and the position integrates the velocity over ground;
6. the swell advances on the new attitude and velocity.

The magnetic field, the geodetic location and the clock are kept by the simulation around
the boat.
-/

namespace SailSim

/-- The intermediate values of one step. -/
structure StepInfo (α : Type) where
  steering : α
  /-- Apparent wind speed, m/s. -/
  windSpeed : α
  /-- Apparent wind angle in the body frame, degrees. -/
  windAngle : α
  sail : SailForces α
  /-- Forward speed through the water, m/s. -/
  speed : α
  /-- deg/s. -/
  yawRate : α
  /-- N. -/
  hullDrag : α
  /-- N. -/
  throttle : α
  accelEarth : Vec3 α
  tideVelocity : Vec3 α

/-- The state of one simulated boat. -/
structure Boat (α : Type) where
  dcm : Dcm α
  /-- Body rates, rad/s. -/
  gyro : Vec3 α
  /-- Sensed acceleration, m/s². -/
  accelBody : Vec3 α
  /-- Earth-frame velocity relative to the water. -/
  velocityWater : Vec3 α
  /-- Earth-frame velocity over ground. -/
  velocity : Vec3 α
  /-- North, east, down metres from home. -/
  position : Vec3 α
  /-- Magnetic field in the body frame, milligauss. -/
  magBody : Vec3 α
  airspeed : α
  rpm : α
  wave : WaveState α
  heel : HeelState α
  last : StepInfo α

namespace StepInfo

variable {α : Type} [Scalar α]

/-- Before any step. -/
def zero : StepInfo α :=
  ⟨0, 0, 0, ⟨0, 0, 0, 0, 0, 0⟩, 0, 0, 0, 0, Vec3.zero, Vec3.zero⟩

end StepInfo

namespace Boat

variable {α : Type} [Scalar α]

/-- At the origin, level, pointing north, at rest. -/
def initial : Boat α where
  dcm := Dcm.identity
  gyro := Vec3.zero
  accelBody := Vec3.zero
  velocityWater := Vec3.zero
  velocity := Vec3.zero
  position := Vec3.zero
  magBody := Vec3.zero
  airspeed := 0
  rpm := 0
  wave := WaveState.initial
  heel := HeelState.rest
  last := StepInfo.zero

/-- The boat pointed at `yawDeg` degrees with its roll and pitch kept. -/
def setHeading (b : Boat α) (yawDeg : α) : Boat α :=
  let e := b.dcm.toEuler
  { b with dcm := Dcm.ofEuler e.roll e.pitch (Scalar.radians yawDeg) }

/-- The thrust of the motor for the throttle pulse, bounded to the servo range. -/
def motorThrust (p : Params α) (pwm : Nat) : α :=
  let pwm := Scalar.min (Scalar.max (Scalar.ofNat pwm) 1000) 2000
  (pwm - 1500) * p.throttleGain

/-- The motor's thrust on a motor frame, else zero. -/
def throttleForce (p : Params α) (c : Controls) : α :=
  if p.motor then motorThrust p (c.get Controls.throttleChannel).toNat else 0

/-- The hull's drag against the forward speed through the water, opposing it. -/
def hullDragForce (p : Params α) (speed : α) : α :=
  speed * speed * p.hullDrag * Scalar.signum speed

/-- The tide's earth-frame velocity while armed with a nonzero speed, else zero. -/
def tideVelocity (c : EnvConfig α) (armed : Bool) : Vec3 α :=
  if armed && !(c.tideSpeed == 0) then
    let r := Scalar.radians c.tideDirection
    let s := Scalar.sin r
    let co := Scalar.cos r
    ⟨-co * c.tideSpeed, -s * c.tideSpeed, 0⟩
  else Vec3.zero

/-- The apparent wind's angle off the bow in degrees: the earth-frame direction of the
apparent wind less the heading `yaw` (radians), wrapped into `[-180, 180]`. -/
def windAngleOff (apparent : Vec3 α) (yaw : α) : α :=
  Curve.wrapDeg180 (Scalar.degrees (Scalar.atan2 apparent.y apparent.x) - Scalar.degrees yaw)

/-- The forward speed through the water: the water velocity's component along the bow. -/
def waterSpeed (dcm : Dcm α) (velocityWater : Vec3 α) : α :=
  (dcm.transpose.mulVec velocityWater).x

/-- The body rates: the heel model's roll rate and the turn's yaw rate (degrees per second),
plus the swell's disturbance. -/
def bodyRates (rollRate yawRate : α) (swell : Vec3 α) : Vec3 α :=
  (⟨rollRate, 0, Scalar.radians yawRate⟩ : Vec3 α) + swell

/-- The acceleration in the heading frame: thrust, sail drive and hull drag along the bow over
the mass, and the turn's centripetal term across it. -/
def headingAccel (p : Params α) (throttle forward hullDrag yawRate speed : α) : Vec3 α :=
  ⟨(throttle + forward - hullDrag) / p.mass, 0 + Scalar.radians yawRate * speed, 0⟩

/-- The earth-frame acceleration: the heading-frame acceleration turned to the heading of
`dcm` (its roll and pitch do not move the hull), with the swell's heave as the vertical. -/
def earthAccel (dcm : Dcm α) (accel : Vec3 α) (heave : α) : Vec3 α :=
  let accelEarth := (Dcm.ofEuler 0 0 dcm.toEuler.yaw).mulVec accel
  { accelEarth with z := heave }

/-- The attitude after integrating the body rates over `dt`, with the direct heel policy's
roll applied. -/
def integrateAttitude (p : Params α) (dcm : Dcm α) (gyro : Vec3 α) (heelForce : α) :
    Dcm α :=
  let dcm := (dcm.rotate (gyro.scale p.timeStep)).normalize
  match p.heelPolicy with
  | .direct =>
    let e := dcm.toEuler
    (Dcm.ofEuler (heelAngle heelForce p.heelAngleGain) e.pitch e.yaw).normalize
  | .torque => dcm

/-- Advances the boat by one time step. -/
def step (p : Params α) (env : Environment α) (c : Controls) (b : Boat α) : Boat α :=
  let dt := p.timeStep
  let armed := env.armed
  let steering := Kinematics.fraction (c.get Controls.steeringChannel).toNat
  let apparent := b.velocity - env.wind
  let windSpeed := apparent.horizontalLength
  let att := b.dcm.toEuler
  let windAngle := windAngleOff apparent att.yaw
  let sail := p.rig.forces c windAngle windSpeed
  let speed := waterSpeed b.dcm b.velocityWater
  let yawRate := p.steering.yawRate steering speed
  let heelStep := b.heel.step p.heelPolicy p.keel sail.heel att.roll dt armed
  let gyro := bodyRates heelStep.1 yawRate b.wave.gyro
  let dcm := integrateAttitude p b.dcm gyro sail.heel
  let hullDrag := hullDragForce p speed
  let throttle := throttleForce p c
  let accelEarth := earthAccel dcm (headingAccel p throttle sail.forward hullDrag yawRate speed)
    b.wave.heave
  let accelBody := dcm.transpose.mulVec (accelEarth + ⟨0, 0, -p.gravity⟩)
  let tide := tideVelocity env.config armed
  let velocityWater := b.velocityWater + accelEarth.scale dt
  let velocity := velocityWater + tide
  let position := b.position + velocity.scale dt
  let wave := b.wave.update p.waveGains dt env.config.waves armed dcm.toEuler velocity
  { b with
    dcm, gyro, accelBody, velocityWater, velocity, position, wave
    heel := heelStep.2
    airspeed := windSpeed
    rpm := windSpeed
    last := ⟨steering, windSpeed, windAngle, sail, speed, yawRate, hullDrag, throttle,
      accelEarth, tide⟩ }

section Stages

/-! The fields of a stepped boat, each as its stage of `step` computes it. -/

variable (p : Params α) (env : Environment α) (c : Controls) (b : Boat α)

theorem step_airspeed : (step p env c b).airspeed = (b.velocity - env.wind).horizontalLength :=
  rfl

theorem step_rpm : (step p env c b).rpm = (b.velocity - env.wind).horizontalLength := rfl

theorem step_last_sail :
    (step p env c b).last.sail =
      p.rig.forces c (windAngleOff (b.velocity - env.wind) b.dcm.toEuler.yaw)
        (b.velocity - env.wind).horizontalLength := rfl

theorem step_last_steering :
    (step p env c b).last.steering = Kinematics.fraction (c.get Controls.steeringChannel).toNat :=
  rfl

theorem step_last_speed : (step p env c b).last.speed = waterSpeed b.dcm b.velocityWater := rfl

theorem step_last_yawRate :
    (step p env c b).last.yawRate =
      p.steering.yawRate (step p env c b).last.steering (step p env c b).last.speed := rfl

theorem step_last_hullDrag :
    (step p env c b).last.hullDrag = hullDragForce p (step p env c b).last.speed := rfl

theorem step_last_throttle : (step p env c b).last.throttle = throttleForce p c := rfl

theorem step_heel :
    (step p env c b).heel =
      (b.heel.step p.heelPolicy p.keel (step p env c b).last.sail.heel b.dcm.toEuler.roll
        p.timeStep env.armed).2 := rfl

theorem step_gyro :
    (step p env c b).gyro =
      bodyRates (b.heel.step p.heelPolicy p.keel (step p env c b).last.sail.heel
        b.dcm.toEuler.roll p.timeStep env.armed).1 (step p env c b).last.yawRate b.wave.gyro := rfl

theorem step_dcm :
    (step p env c b).dcm =
      integrateAttitude p b.dcm (step p env c b).gyro (step p env c b).last.sail.heel := rfl

theorem step_last_accelEarth :
    (step p env c b).last.accelEarth =
      earthAccel (step p env c b).dcm
        (headingAccel p (step p env c b).last.throttle (step p env c b).last.sail.forward
          (step p env c b).last.hullDrag (step p env c b).last.yawRate (step p env c b).last.speed)
        b.wave.heave := rfl

theorem step_last_tideVelocity :
    (step p env c b).last.tideVelocity = tideVelocity env.config env.armed := rfl

theorem step_velocityWater :
    (step p env c b).velocityWater =
      b.velocityWater + (step p env c b).last.accelEarth.scale p.timeStep := rfl

theorem step_velocity_eq :
    (step p env c b).velocity = (step p env c b).velocityWater + (step p env c b).last.tideVelocity :=
  rfl

theorem step_position :
    (step p env c b).position = b.position + (step p env c b).velocity.scale p.timeStep := rfl

theorem step_wave :
    (step p env c b).wave =
      b.wave.update p.waveGains p.timeStep env.config.waves env.armed (step p env c b).dcm.toEuler
        (step p env c b).velocity := rfl

end Stages

end Boat

end SailSim
