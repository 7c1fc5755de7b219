import SailSim.Run.Basic
import SailSim.Run.Progress
import SailSim.Schedule
import SailSim.Geo.Track
import SailSim.Telemetry.Meter

/-!
# Running a simulation in lock step

`Runner.run` drives a simulation for a number of steps. Each step:

1. reads the schedule at the clock's time; a setpoint that sets the armed flag to a value the
   environment does not have changes it;
2. updates the boat with the setpoint's command (the neutral command before the first
   keyframe or without a schedule);
3. publishes the sample of the step, numbered from one; a failed publication is counted and
   the run goes on;
4. adds the horizontal ground speed times the time step to the distance, keeps the largest
   speed, appends the position to the track, advances the progress and counts the step.

Before each step the run stops if the publisher has asked it to; the summary then says the run
was cancelled. At the end the summary holds the clock's time, the length of the local track,
as the runner's geometry library measures it, and the last position fix.
-/

namespace SailSim

/-- Where samples go: a state `σ` that takes samples, possibly failing, and that may ask the
run to stop. -/
structure Publisher (σ : Type) where
  /-- The state after taking a sample, and whether it was taken without error. -/
  publish : σ → StepSample → σ × Bool
  /-- Whether the run should stop. -/
  cancelled : σ → Bool

/-- The simulation a runner drives, with its schedule and progress. -/
structure Runner where
  sim : Sim Float
  schedule : Option Schedule := none
  progress : Progress := {}
  readings : Telemetry.Readings := {}
  /-- How the track is measured. -/
  lines : Geo.LineMeasure := .euclidean

/-- Everything a run leaves behind. -/
structure RunOutcome (σ : Type) where
  runner : Runner
  summary : RunSummary
  publisher : σ
  /-- How many samples the publisher failed to take. -/
  sinkErrors : Nat
  track : Geo.Track

namespace Runner

/-- One step of the run `runId` numbered `step + 1`: the simulation after it and its sample. -/
def stepOnce (sim : Sim Float) (schedule : Option Schedule) (runId : String) (step : Nat) :
    Sim Float × StepSample :=
  let t := sim.seconds
  let (point, ok) := Schedule.setpointOf schedule t
  let sim := match ok, point.armed with
    | true, some a => if a != sim.env.armed then sim.setArmed a else sim
    | _, _ => sim
  let command := point.input
  let sim := sim.update command
  let l := sim.boat.last
  let sample : StepSample := {
    runId := runId
    step := step + 1
    simTime := sim.seconds
    input := command
    state := sim.state
    windSpeed := l.windSpeed
    windAngle := l.windAngle
    sailAngle := l.sail.sailAngle
    forceFwd := l.sail.forward
    forceHeel := l.sail.heel
    wavePhase := sim.boat.wave.phase
    waveHeave := sim.boat.wave.heave
    rollRate := sim.boat.heel.rollRate }
  (sim, sample)

/-- The state of a run between steps. -/
structure Loop (σ : Type) where
  runner : Runner
  summary : RunSummary
  publisher : σ
  sinkErrors : Nat
  track : Geo.Track

/-- Runs the steps `step`, `step + 1`, … while `left` steps remain. -/
def loop {σ : Type} (pub : Publisher σ) (runId : String) (dt : Float) :
    Nat → Nat → Loop σ → Loop σ
  | 0, _, l => l
  | left + 1, step, l =>
    if pub.cancelled l.publisher then { l with summary := { l.summary with cancelled := true } }
    else
      let r := l.runner
      let (sim, sample) := stepOnce r.sim r.schedule runId step
      let (ps, ok) := pub.publish l.publisher sample
      let speed := sample.state.velocity.horizontalLength
      let summary := { l.summary with
        steps := l.summary.steps + 1
        distance := l.summary.distance + speed * dt
        maxSpeed := Scalar.max l.summary.maxSpeed speed }
      let r := { r with
        sim
        progress := r.progress.advance sample.step sample.simTime speed
        readings := (r.readings.add "sailsim.steps" 1).record "sailsim.step.duration" }
      loop pub runId dt left (step + 1)
        ⟨r, summary, ps, if ok then l.sinkErrors else l.sinkErrors + 1,
          l.track.add sample.state.position sample.state.location⟩

/-- Runs `run` for `ns` nanoseconds of simulated time, publishing every step. -/
def run {σ : Type} (r : Runner) (pub : Publisher σ) (start : σ) (run : Run) (ns : Int) :
    RunOutcome σ :=
  let sim := r.sim
  let lines := r.lines
  let dt := sim.params.timeStep
  let steps := (Duration.stepsFor ns dt).toNat
  let r := { r with progress := r.progress.start run.uuid }
  let track := ({} : Geo.Track).add sim.boat.position sim.location
  let l := loop pub run.uuid dt steps 0 ⟨r, { runId := run.uuid }, start, 0, track⟩
  let r := { l.runner with progress := l.runner.progress.stop }
  let summary := { l.summary with
    simTime := r.sim.seconds
    trackLength := l.track.length lines
    final := r.sim.location }
  ⟨r, summary, l.publisher, l.sinkErrors, l.track⟩

/-- The readings of a recording meter after the run: the runner's counts and the speed gauge,
which reads the last speed. -/
def meterReadings (r : Runner) : Telemetry.Readings :=
  r.readings.gauge "sailsim.speed" r.progress.speed

end Runner

end SailSim
