import SailSim.Boat.Step
import SailSim.Boat.Clock
import SailSim.Boat.Instruments

/-!
# A simulated boat with its surroundings

A `Sim` is a boat with its parameters, its environment and the instruments wired around it:
an optional clock, an optional position fix and an optional compass. One `update` applies a
servo command:

1. the wind is brought to the clock's time (time zero without a clock);
2. the boat steps (`Boat.step`);
3. the position fix follows the new position, the clock advances by the time step, and the
   compass reads the field at the fixed position in the new attitude.

A simulation is built only from valid parameters and with an environment; a frame with a
motor turns the motor on.
-/

namespace SailSim

/-- What the boat's sensors report after a step. -/
structure VehicleState (α : Type) where
  timeUs : UInt64
  attitude : Euler α
  gyro : Vec3 α
  accelBody : Vec3 α
  velocityWater : Vec3 α
  velocity : Vec3 α
  position : Vec3 α
  location : Geodetic α
  magBody : Vec3 α
  airspeed : α
  rpm : α

/-- A boat in its environment, with its instruments. -/
structure Sim (α : Type) where
  params : Params α
  env : Environment α
  clock : Option Clock
  fix : Option (GeoFix α)
  compass : Option (Compass α)
  boat : Boat α

namespace Sim

variable {α : Type} [Scalar α]

/-- A simulation of a boat at rest at home, or why the parameters are unusable. -/
def new (p : Params α) (env : Option (Environment α)) (clock : Option Clock)
    (fix : Option (GeoFix α)) (compass : Option (Compass α)) : Except (ParamError α) (Sim α) := do
  let p ← p.validate
  let some env := env | .error .environmentRequired
  let p := if Params.frameHasMotor p.frame then { p with motor := true } else p
  pure ⟨p, env, clock, fix, compass, Boat.initial⟩

/-- The simulated time in seconds, zero without a clock. -/
def seconds (s : Sim α) : α :=
  match s.clock with
  | some c => c.seconds
  | none => 0

/-- The last fixed position, zero without a position fix. -/
def location (s : Sim α) : Geodetic α :=
  match s.fix with
  | some f => f.location
  | none => ⟨0, 0, 0⟩

/-- The simulation after one step under the servo command `c`. -/
def update (s : Sim α) (c : Controls) : Sim α :=
  let env := s.env.updateWind s.seconds
  let boat := Boat.step s.params env c s.boat
  let s := { s with
    env, boat
    fix := s.fix.map (GeoFix.update · boat.position)
    clock := s.clock.map (Clock.advance · s.params.timeStep) }
  match s.compass with
  | some k =>
    let (m, k) := k.bodyField s.location boat.dcm
    { s with boat := { boat with magBody := m }, compass := some k }
  | none => s

theorem update_params (s : Sim α) (c : Controls) : (s.update c).params = s.params := by
  simp only [update]
  split <;> rfl

theorem update_env (s : Sim α) (c : Controls) : (s.update c).env = s.env.updateWind s.seconds := by
  simp only [update]
  split <;> rfl

theorem update_clock (s : Sim α) (c : Controls) :
    (s.update c).clock = s.clock.map (Clock.advance · s.params.timeStep) := by
  simp only [update]
  split <;> rfl

/-- The boat after an update is the boat's step, up to the compass reading. -/
theorem update_boat (s : Sim α) (c : Controls) :
    ∃ m, (s.update c).boat = { Boat.step s.params (s.env.updateWind s.seconds) c s.boat with
      magBody := m } := by
  simp only [update]
  split
  · exact ⟨_, rfl⟩
  · exact ⟨_, rfl⟩

/-- The simulation with the boat turned to `yawDeg` degrees. -/
def setHeading (s : Sim α) (yawDeg : α) : Sim α := { s with boat := s.boat.setHeading yawDeg }

/-- The simulation with the autopilot armed or disarmed. -/
def setArmed (s : Sim α) (armed : Bool) : Sim α := { s with env := s.env.setArmed armed }

/-- What the sensors report. -/
def state (s : Sim α) : VehicleState α where
  timeUs := (s.clock.map Clock.micros).getD 0
  attitude := s.boat.dcm.toEuler
  gyro := s.boat.gyro
  accelBody := s.boat.accelBody
  velocityWater := s.boat.velocityWater
  velocity := s.boat.velocity
  position := s.boat.position
  location := s.location
  magBody := s.boat.magBody
  airspeed := s.boat.airspeed
  rpm := s.boat.rpm

end Sim

end SailSim
