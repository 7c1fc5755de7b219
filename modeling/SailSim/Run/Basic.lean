import SailSim.Sim.Basic
import SailSim.Time.Instant
import SailSim.Json.Value

/-!
# Runs, samples and summaries

A `Run` describes one simulation run: its identity, the boat's frame, the simulated start
time, the time step, the planned duration and the home position, with a snapshot of the
configuration. Every step publishes a `StepSample`: the command applied, the state after the
step and what the sail, the wind and the swell did. A `RunSummary` closes the run.

Durations are counted in nanoseconds; `Duration.seconds` reads one in seconds as whole
seconds plus the fraction, and a run of `d` lasts `stepsFor d dt` steps: `d / dt` rounded to
the nearest integer, halves away from zero, and none when `d` is not positive.
-/

namespace SailSim

/-- One simulation run. -/
structure Run where
  id : Nat := 0
  uuid : String
  name : String
  frame : String
  /-- The simulated time of step zero. -/
  startTime : Instant
  timeStep : Float
  /-- The planned duration in seconds. -/
  duration : Float
  home : Geodetic Float
  /-- The configuration the run was started with. -/
  config : List (String × Json) := []

/-- What one step published. -/
structure StepSample where
  runId : String
  step : Nat
  simTime : Float
  wallTime : Instant := Instant.zero
  input : Controls
  state : VehicleState Float
  windSpeed : Float
  windAngle : Float
  sailAngle : Float
  forceFwd : Float
  forceHeel : Float
  wavePhase : Float
  waveHeave : Float
  rollRate : Float

/-- The sample of step `step` with every other field zero and no run. -/
def StepSample.zero (step : Nat := 0) : StepSample :=
  { runId := "", step, simTime := 0, input := Controls.zero,
    state := ⟨0, ⟨0, 0, 0⟩, Vec3.zero, Vec3.zero, Vec3.zero, Vec3.zero, Vec3.zero, ⟨0, 0, 0⟩,
      Vec3.zero, 0, 0⟩,
    windSpeed := 0, windAngle := 0, sailAngle := 0, forceFwd := 0, forceHeel := 0,
    wavePhase := 0, waveHeave := 0, rollRate := 0 }

/-- The outcome of a run. -/
structure RunSummary where
  runId : String := ""
  steps : Nat := 0
  simTime : Float := 0
  distance : Float := 0
  trackLength : Float := 0
  maxSpeed : Float := 0
  final : Geodetic Float := ⟨0, 0, 0⟩
  cancelled : Bool := false

namespace Duration

/-- Nanoseconds in a second. -/
def nanosPerSecond : Int := 1000000000

/-- A duration of `ns` nanoseconds in seconds: the whole seconds plus the remaining
nanoseconds over 10⁹, each part truncated toward zero. -/
def seconds (ns : Int) : Float :=
  Float.ofInt (ns.tdiv nanosPerSecond) + Float.ofInt (ns.tmod nanosPerSecond) / 1e9

/-- The number of steps of `dt` seconds that cover `ns` nanoseconds. -/
def stepsFor (ns : Int) (dt : Float) : UInt64 :=
  if ns ≤ 0 then 0 else Scalar.nearestWord (seconds ns / dt)

end Duration

/-- The description of a run of the simulation built around `home`, named `name`, starting
at `start` and planned for `ns` nanoseconds. -/
def Sim.newRun (s : Sim Float) (home : Geodetic Float) (uuid name : String) (start : Instant)
    (ns : Int) (config : List (String × Json) := []) : Run :=
  { uuid, name, frame := s.params.frame, startTime := start, timeStep := s.params.timeStep,
    duration := Duration.seconds ns, home, config }

end SailSim
