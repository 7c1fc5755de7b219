import Mathlib
import SailSim.Run.Runner

/-!
# The run loop

`Runner.run` is a loop that threads three things through the steps of a run: the simulation,
the publisher's state and the summary. The simulation never reads the publisher, so the steps
and their samples are fixed before the run starts (`Runner.simAfter`, `Runner.sampleAt`); the
publisher only decides how many of them are taken, by asking to stop before a step.

* `Runner.loop_succ_of_not_cancelled` says everything one step of the loop does.
* `Runner.loop_takes_samples` is the loop invariant: the loop takes the samples of the next
  steps up to the first one before which the publisher asks to stop, and the summary counts
  exactly those.
* `Runner.loop_sinkErrors_frame` says that whether a sample was taken without error changes
  the error count and nothing else.
* `Runner.run_takes_samples` and `Runner.run_withResults` say the same of a whole run, and
  `Runner.run_publishes_steps_in_order` assembles them.
-/

namespace SailSim

variable {σ : Type}

namespace Publisher

/-- The state of a publisher after it is offered the samples `xs` in order. -/
def feed (pub : Publisher σ) (p : σ) (xs : List StepSample) : σ :=
  xs.foldl (fun p x => (pub.publish p x).1) p

@[simp] theorem feed_nil (pub : Publisher σ) (p : σ) : pub.feed p [] = p := rfl

@[simp] theorem feed_cons (pub : Publisher σ) (p : σ) (x : StepSample) (xs : List StepSample) :
    pub.feed p (x :: xs) = pub.feed (pub.publish p x).1 xs := rfl

/-- The publisher that moves through the states of `pub` and asks to stop in the same ones,
but reports `ok p x` for taking the sample `x` in the state `p`. -/
def withResults (pub : Publisher σ) (ok : σ → StepSample → Bool) : Publisher σ :=
  ⟨fun p x => ((pub.publish p x).1, ok p x), pub.cancelled⟩

end Publisher

/-- The horizontal speed over ground of a sample. -/
def StepSample.groundSpeed (x : StepSample) : Float := x.state.velocity.horizontalLength

namespace Runner

/-! ### The steps of a run -/

/-- The simulation of the run `runId` after its first `k` steps. -/
def simAfter (r : Runner) (runId : String) : Nat → Sim Float
  | 0 => r.sim
  | k + 1 => (stepOnce (r.simAfter runId k) r.schedule runId k).1

/-- The sample that step `k + 1` of the run `runId` publishes. -/
def sampleAt (r : Runner) (runId : String) (k : Nat) : StepSample :=
  (stepOnce (r.simAfter runId k) r.schedule runId k).2

/-- The samples of `m` steps after the first `step`, in order. -/
def samplesFrom (r : Runner) (runId : String) (step m : Nat) : List StepSample :=
  (List.range' step m).map (r.sampleAt runId)

/-- The samples of the first `n` steps, in order. -/
def samples (r : Runner) (runId : String) (n : Nat) : List StepSample :=
  (List.range n).map (r.sampleAt runId)

theorem stepOnce_simAfter (r : Runner) (runId : String) (k : Nat) :
    stepOnce (r.simAfter runId k) r.schedule runId k = (r.simAfter runId (k + 1), r.sampleAt runId k) :=
  rfl

@[simp] theorem samplesFrom_zero (r : Runner) (runId : String) (step : Nat) :
    r.samplesFrom runId step 0 = [] := rfl

theorem samplesFrom_succ (r : Runner) (runId : String) (step m : Nat) :
    r.samplesFrom runId step (m + 1) = r.sampleAt runId step :: r.samplesFrom runId (step + 1) m := by
  simp only [samplesFrom, List.range'_succ, List.map_cons]

theorem samplesFrom_start (r : Runner) (runId : String) (n : Nat) :
    r.samplesFrom runId 0 n = r.samples runId n := by
  simp only [samplesFrom, samples, List.range_eq_range']

/-- Each sample is numbered from one, labelled with its run, and carries the input the schedule
gives at the simulated time before its step. -/
theorem sampleAt_labels (r : Runner) (runId : String) (k : Nat) :
    (r.sampleAt runId k).step = k + 1 ∧ (r.sampleAt runId k).runId = runId ∧
      (r.sampleAt runId k).input =
        (Schedule.setpointOf r.schedule (r.simAfter runId k).seconds).1.input :=
  ⟨rfl, rfl, rfl⟩

section Loop

variable (pub : Publisher σ) (runId : String) (dt : Float)

/-- One step of the loop that the publisher lets go ahead: it moves the simulation one step,
offers the step's sample to the publisher, adds the sample to the summary and the sample's
position to the track. -/
theorem loop_succ_of_not_cancelled {left step : Nat} {l : Loop σ}
    (h : pub.cancelled l.publisher = false) :
    ∃ l' : Loop σ, loop pub runId dt (left + 1) step l = loop pub runId dt left (step + 1) l' ∧
      l'.runner.sim = (stepOnce l.runner.sim l.runner.schedule runId step).1 ∧
      l'.runner.schedule = l.runner.schedule ∧
      l'.publisher = (pub.publish l.publisher (stepOnce l.runner.sim l.runner.schedule runId step).2).1 ∧
      l'.summary = { l.summary with
        steps := l.summary.steps + 1
        distance := l.summary.distance +
          (stepOnce l.runner.sim l.runner.schedule runId step).2.groundSpeed * dt
        maxSpeed := Scalar.max l.summary.maxSpeed
          (stepOnce l.runner.sim l.runner.schedule runId step).2.groundSpeed } ∧
      l'.track = l.track.add (stepOnce l.runner.sim l.runner.schedule runId step).2.state.position
        (stepOnce l.runner.sim l.runner.schedule runId step).2.state.location := by
  refine ⟨?next, ?unfold, ?_, ?_, ?_, ?_, ?_⟩
  case unfold => rw [loop, if_neg (by simp [h])]
  all_goals rfl

variable (r : Runner)

/-- **The loop invariant.** From a state whose simulation is the one after `step` steps, the
loop runs the next `m` steps, for the first `m` before which the publisher asks to stop or for
all `left` of them. The publisher is offered exactly their samples, in order; the summary
counts them, adds their distances, keeps their top speed and is marked cancelled when the loop
stopped early. -/
theorem loop_takes_samples {left step : Nat} {l : Loop σ}
    (hsim : l.runner.sim = r.simAfter runId step) (hsch : l.runner.schedule = r.schedule) :
    ∃ m ≤ left,
      (∀ k < m, pub.cancelled (pub.feed l.publisher (r.samplesFrom runId step k)) = false) ∧
      (m < left → pub.cancelled (pub.feed l.publisher (r.samplesFrom runId step m)) = true) ∧
      (loop pub runId dt left step l).publisher =
        pub.feed l.publisher (r.samplesFrom runId step m) ∧
      (loop pub runId dt left step l).runner.sim = r.simAfter runId (step + m) ∧
      (loop pub runId dt left step l).summary = { l.summary with
        steps := l.summary.steps + m
        distance := ((r.samplesFrom runId step m).map StepSample.groundSpeed).foldl
          (fun d v => d + v * dt) l.summary.distance
        maxSpeed := ((r.samplesFrom runId step m).map StepSample.groundSpeed).foldl
          Scalar.max l.summary.maxSpeed
        cancelled := l.summary.cancelled || decide (m < left) } := by
  induction left generalizing step l with
  | zero => exact ⟨0, Nat.le_refl 0, by simp, by simp, rfl, hsim, by simp [loop]⟩
  | succ left ih =>
    by_cases hc : pub.cancelled l.publisher = true
    · -- asked to stop before this step: nothing more is taken
      refine ⟨0, Nat.zero_le _, by simp, fun _ => by simpa using hc, ?_, ?_, ?_⟩ <;>
        simp [loop, hc, hsim]
    · obtain ⟨l', hloop, hsim', hsch', hpub', hsum', -⟩ :=
        @loop_succ_of_not_cancelled σ pub runId dt left step l (by simpa using hc)
      rw [hsim, hsch, stepOnce_simAfter] at hsim' hpub' hsum'
      obtain ⟨m, hm, hgo, hstop, hpub, hsimm, hsum⟩ := ih hsim' (hsch'.trans hsch)
      refine ⟨m + 1, Nat.succ_le_succ hm, ?_, ?_, ?_, ?_, ?_⟩
      · intro k hk
        cases k with
        | zero => simpa using hc
        | succ k => rw [samplesFrom_succ, Publisher.feed_cons, ← hpub']; exact hgo k (by omega)
      · intro hlt
        rw [samplesFrom_succ, Publisher.feed_cons, ← hpub']
        exact hstop (by omega)
      · rw [hloop, hpub, samplesFrom_succ, Publisher.feed_cons, hpub']
      · rw [hloop, hsimm, Nat.add_right_comm, Nat.add_assoc]
      · rw [hloop, hsum, hsum', samplesFrom_succ]
        simp [Nat.add_assoc, Nat.add_comm 1 m]

/-- **Errors are only counted.** Whether the publisher reports a sample as taken without error
changes the loop's count of failed publications and nothing else. -/
theorem loop_sinkErrors_frame (ok : σ → StepSample → Bool) {left step : Nat} {a b : Loop σ}
    (h : { a with sinkErrors := 0 } = { b with sinkErrors := 0 }) :
    { loop (pub.withResults ok) runId dt left step a with sinkErrors := 0 } =
      { loop pub runId dt left step b with sinkErrors := 0 } := by
  induction left generalizing step a b with
  | zero => exact h
  | succ left ih =>
    obtain ⟨ra, sa, pa, ea, ta⟩ := a
    obtain ⟨rb, sb, pb, eb, tb⟩ := b
    obtain ⟨rfl, rfl, rfl, -, rfl⟩ := Loop.mk.inj h
    by_cases hc : pub.cancelled pa = true
    · rw [loop, loop, if_pos (show (pub.withResults ok).cancelled pa = true from hc), if_pos hc]
    · rw [loop, loop, if_neg (show ¬(pub.withResults ok).cancelled pa = true from hc), if_neg hc]
      exact ih rfl

end Loop

section Run

variable (r : Runner) (pub : Publisher σ) (start : σ) (run : Run) (ns : Int)

/-- The state a run's loop starts from, whichever publisher it serves. -/
def startLoop : Loop σ :=
  ⟨{ r with progress := r.progress.start run.uuid }, { runId := run.uuid }, start, 0,
    ({} : Geo.Track).add r.sim.boat.position r.sim.location⟩

/-- A run is its loop from `startLoop`, with the summary completed. -/
theorem run_eq_loop :
    r.run pub start run ns =
      let l := loop pub run.uuid r.sim.params.timeStep
        (Duration.stepsFor ns r.sim.params.timeStep).toNat 0 (startLoop r start run)
      ⟨{ l.runner with progress := l.runner.progress.stop },
        { l.summary with
          simTime := l.runner.sim.seconds
          trackLength := l.track.length r.lines
          final := l.runner.sim.location },
        l.publisher, l.sinkErrors, l.track⟩ := rfl

/-- **What a run takes.** A run of `ns` nanoseconds takes the first `n` of its `steps` steps:
all of them, unless the publisher, asked before each step, asks to stop. The publisher is
offered the samples of steps `1, …, n` in order. The summary counts `n` steps, says whether the
run stopped early, adds up ground speed times the time step from zero and keeps the top speed
from zero. -/
theorem run_takes_samples :
    let dt := r.sim.params.timeStep
    let steps := (Duration.stepsFor ns dt).toNat
    let o := r.run pub start run ns
    ∃ n ≤ steps,
      (∀ k < n, pub.cancelled (pub.feed start (r.samples run.uuid k)) = false) ∧
      (n < steps → pub.cancelled (pub.feed start (r.samples run.uuid n)) = true) ∧
      o.publisher = pub.feed start (r.samples run.uuid n) ∧
      o.summary.steps = n ∧ o.summary.cancelled = decide (n < steps) ∧
      o.summary.distance =
        ((r.samples run.uuid n).map StepSample.groundSpeed).foldl (fun d v => d + v * dt) 0 ∧
      o.summary.maxSpeed = ((r.samples run.uuid n).map StepSample.groundSpeed).foldl Scalar.max 0 := by
  intro dt steps o
  obtain ⟨n, hn, hgo, hstop, hpub, -, hsum⟩ :=
    @loop_takes_samples σ pub run.uuid r.sim.params.timeStep r
      (Duration.stepsFor ns r.sim.params.timeStep).toNat 0 (startLoop r start run) rfl rfl
  simp only [samplesFrom_start] at hgo hstop hpub hsum
  refine ⟨n, hn, hgo, hstop, ?_, ?_, ?_, ?_, ?_⟩ <;> simp only [o, dt, steps, run_eq_loop]
  · exact hpub
  all_goals (rw [hsum]; simp [startLoop])

/-- **Errors are only counted.** The summary and the publisher's state after a run do not
depend on which samples the publisher reports as failed. -/
theorem run_withResults (ok : σ → StepSample → Bool) :
    (r.run (pub.withResults ok) start run ns).summary = (r.run pub start run ns).summary ∧
      (r.run (pub.withResults ok) start run ns).publisher = (r.run pub start run ns).publisher := by
  obtain ⟨hr, hs, hp, -, ht⟩ := Loop.mk.inj (@loop_sinkErrors_frame σ pub run.uuid
    r.sim.params.timeStep ok (Duration.stepsFor ns r.sim.params.timeStep).toNat 0
    (startLoop r start run) (startLoop r start run) rfl)
  refine ⟨?_, hp⟩
  simp only [run_eq_loop]
  rw [hr, hs, ht]

end Run

/-- **The run loop.** A run of `ns` nanoseconds takes the first `n` of its `steps` steps: all
of them, unless the publisher, asked before each step, asks to stop. The publisher is offered
the samples of steps `1, …, n` in order, each labelled with the run and carrying the input the
schedule gives before its step. The summary counts `n` steps, says whether the run stopped
early, adds up ground speed times the time step from zero and keeps the top speed from zero.
Neither the samples nor the summary depend on which samples the publisher reports as failed. -/
theorem run_publishes_steps_in_order (r : Runner) (pub : Publisher σ) (start : σ) (run : Run)
    (ns : Int) :
    let dt := r.sim.params.timeStep
    let steps := (Duration.stepsFor ns dt).toNat
    let o := r.run pub start run ns
    (∃ n ≤ steps,
      (∀ k < n, pub.cancelled (pub.feed start (r.samples run.uuid k)) = false) ∧
      (n < steps → pub.cancelled (pub.feed start (r.samples run.uuid n)) = true) ∧
      o.publisher = pub.feed start (r.samples run.uuid n) ∧
      o.summary.steps = n ∧ o.summary.cancelled = decide (n < steps) ∧
      o.summary.distance =
        ((r.samples run.uuid n).map StepSample.groundSpeed).foldl (fun d v => d + v * dt) 0 ∧
      o.summary.maxSpeed = ((r.samples run.uuid n).map StepSample.groundSpeed).foldl Scalar.max 0) ∧
    (∀ k, (r.sampleAt run.uuid k).step = k + 1 ∧ (r.sampleAt run.uuid k).runId = run.uuid ∧
      (r.sampleAt run.uuid k).input =
        (Schedule.setpointOf r.schedule (r.simAfter run.uuid k).seconds).1.input) ∧
    ∀ ok : σ → StepSample → Bool,
      (r.run (pub.withResults ok) start run ns).summary = o.summary ∧
      (r.run (pub.withResults ok) start run ns).publisher = o.publisher :=
  ⟨run_takes_samples r pub start run ns, sampleAt_labels r run.uuid,
    run_withResults r pub start run ns⟩

end Runner

end SailSim
