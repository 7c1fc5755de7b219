import Mathlib
import SailSim.Proofs.SimClock
import SailSim.Proofs.Schedule
import SailSim.Proofs.FloatClass

/-!
# The armed flag over a run

At the start of each step the runner asks the schedule for the setpoint in effect at the step's
start time; when a keyframe is in effect and sets an armed flag different from the
environment's, the environment takes it.  The step's update then runs with that flag.  Pulse
widths are carried from keyframe to keyframe when a schedule is built, but armed flags are not:
a setpoint holds only its own keyframe's flag.  So a keyframe's flag reaches the environment
only if that keyframe is the one in effect at the start of some step, and a keyframe followed by
another within one time step is never seen.

* `Runner.stepOnce_armed` : a step takes the flag its setpoint sets, and keeps the flag
  otherwise;
* `Runner.simAfter_armed` : after `k` steps the flag is the last one set at the start of a step,
  or the flag the run started with;
* `Runner.armed_follows_keyframes_at_step_starts` : **for a built schedule, the update of step
  `k + 1` runs with the flag of the last setpoint in effect at the start of one of the steps
  `1 … k + 1` that sets a flag, or the flag the run started with; with no NaN keyframe time,
  that is the last keyframe at or before such a start**;
* `Runner.brief_disarm_lost` : a disarming keyframe at 1 ms followed by another at 2 ms, both
  inside the first 2.5 ms step: the boat stays armed through the second step, although the
  last keyframe before its start that sets a flag disarms.
-/

namespace SailSim

namespace Schedule

/-- The armed flag an answer of the schedule sets: that of its setpoint, when one is in
effect. -/
def armedOf (answer : Setpoint × Bool) : Option Bool :=
  if answer.2 then answer.1.armed else none

/-- The flag set by the keyframe in effect at `t`: the last one at or before `t`, when it sets
a flag. -/
def flagInEffect (frames : List Keyframe) (t : Float) : Option Bool :=
  (frames.filter fun f => f.t ≤ t).getLast?.bind Keyframe.armed

/-- The flag of the last keyframe at or before `t` that sets one. -/
def lastFlagSet (frames : List Keyframe) (t : Float) : Option Bool :=
  ((frames.filter fun f => f.t ≤ t).filterMap Keyframe.armed).getLast?

/-- A scan of keyframes answers with the flag of the last keyframe at or before `t`, and keeps
the answer it started with when there is none. -/
theorem armedOf_scanFrom (t : Float) (c : Controls) (found : Setpoint × Bool)
    (fs : List Keyframe) :
    armedOf (scanFrom t c found fs) =
      ((fs.filter fun f => f.t ≤ t).getLast?.map Keyframe.armed).getD (armedOf found) := by
  induction fs generalizing c found with
  | nil => rfl
  | cons f fs ih =>
    rw [scanFrom, ih]
    by_cases hf : f.t ≤ t
    · -- `f` is due: it is the answer unless a later keyframe is due too
      rw [if_pos hf, List.filter_cons_of_pos (by simpa using hf), List.getLast?_cons]
      cases (fs.filter fun f => f.t ≤ t).getLast? <;> rfl
    · rw [if_neg hf, List.filter_cons_of_neg (by simpa using hf)]

/-- For a schedule built from keyframes whose times are not NaN, the flag its answer at a time
that is not NaN sets is the flag of the keyframe in effect then. -/
theorem armedOf_setpoint {frames : List Keyframe} {s : Schedule} (hs : build frames = .ok s)
    (hnum : ∀ f ∈ frames, f.t.isNaN = false) {t : Float} (ht : t.isNaN = false) :
    armedOf (s.setpoint t) = flagInEffect frames t := by
  rw [setpoint_eq_scanSetpoint hs hnum ht, scanSetpoint, armedOf_scanFrom, flagInEffect]
  cases (frames.filter fun f => f.t ≤ t).getLast? <;> rfl

end Schedule

namespace Clock

/-- The clock's time in seconds is never NaN: a count of microseconds over a million. -/
theorem seconds_isNaN (c : Clock) : (c.seconds : Float).isNaN = false := by
  obtain ⟨s, m, e, h, hmillion⟩ : ∃ s m e h, (1e6 : Float).toModel.unpack = .finite s m e h :=
    ⟨_, _, _, _, rfl⟩
  rw [seconds, Binary64.isNaN_div_of_finite hmillion]
  exact Binary64.isNaN_ofNat _

end Clock

theorem Sim.seconds_isNaN (s : Sim Float) : s.seconds.isNaN = false := by
  unfold Sim.seconds
  split
  · exact Clock.seconds_isNaN _
  · decide

/-- An update never changes the armed flag: it only moves the wind on. -/
theorem Sim.update_env_armed (s : Sim Float) (c : Controls) : (s.update c).env.armed = s.env.armed := by
  rw [Sim.update_env]
  rfl

namespace Runner

/-- One step: the flag after it, which is the flag its update ran with, is the one its
setpoint sets, or the flag before it. -/
theorem stepOnce_armed (sim : Sim Float) (schedule : Option Schedule) (runId : String)
    (step : Nat) :
    (stepOnce sim schedule runId step).1.env.armed =
      (Schedule.armedOf (Schedule.setpointOf schedule sim.seconds)).getD sim.env.armed := by
  simp only [stepOnce, Sim.update_env_armed]
  rcases Schedule.setpointOf schedule sim.seconds with ⟨⟨t, input, armed⟩, ok⟩
  cases ok <;> cases armed
  case true.some a =>
    -- the flag is set only when it differs, and keeping an equal flag is the same
    show (if (a != sim.env.armed) = true then sim.setArmed a else sim).env.armed = a
    split
    · rfl
    · simp_all
  all_goals rfl

/-- The flags set at the start of the first `k` steps of the run `runId`, in order. -/
def flagsSet (r : Runner) (runId : String) (k : Nat) : List Bool :=
  (List.range k).filterMap fun j =>
    Schedule.armedOf (Schedule.setpointOf r.schedule (r.simAfter runId j).seconds)

/-- Over a run, the flag after `k` steps is the last flag set at the start of a step, or the
flag the run started with when no step set one. -/
theorem simAfter_armed (r : Runner) (runId : String) (k : Nat) :
    (r.simAfter runId k).env.armed = (r.flagsSet runId k).getLast?.getD r.sim.env.armed := by
  induction k with
  | zero => rfl
  | succ k ih =>
    rw [simAfter, stepOnce_armed, ih]
    unfold flagsSet
    simp only [List.range_succ, List.filterMap_append, List.filterMap_cons, List.filterMap_nil]
    -- the step either sets a flag, which is then the last one, or adds none
    cases Schedule.armedOf (Schedule.setpointOf r.schedule (r.simAfter runId k).seconds) with
    | none => rw [List.append_nil]; rfl
    | some a => rw [List.getLast?_concat]; rfl

/-- **The armed flag over a run.**  With a built schedule, the update of step `k + 1` runs with
the flag of the last setpoint that the schedule answered at the start of one of the steps
`1 … k + 1` and that sets a flag, or with the flag the run started with when there is none; each
answer is a setpoint in effect at that start (`Schedule.setpoint_cases`).  When no keyframe time
is NaN, the setpoint answered is that of the last keyframe at or before the start, so the flag
is that of the last keyframe in effect at the start of one of the steps that sets one.  A
keyframe that is never in effect at a step's start, because the next one follows within a time
step, sets nothing. -/
theorem armed_follows_keyframes_at_step_starts (r : Runner) (runId : String)
    {frames : List Keyframe} {s : Schedule} (hs : Schedule.build frames = .ok s)
    (hsch : r.schedule = some s) (k : Nat) :
    (r.simAfter runId (k + 1)).env.armed =
        ((List.range (k + 1)).filterMap fun j =>
            Schedule.armedOf (s.setpoint (r.simAfter runId j).seconds)).getLast?.getD
          r.sim.env.armed ∧
      ((∀ f ∈ frames, f.t.isNaN = false) →
        (r.simAfter runId (k + 1)).env.armed =
          ((List.range (k + 1)).filterMap fun j =>
              Schedule.flagInEffect frames (r.simAfter runId j).seconds).getLast?.getD
            r.sim.env.armed) := by
  rw [simAfter_armed, flagsSet, hsch]
  refine ⟨rfl, fun hnum => ?_⟩
  congr 2
  apply List.filterMap_congr
  intro j _
  exact Schedule.armedOf_setpoint hs hnum (Sim.seconds_isNaN _)

/-- The stock boat, armed, with a clock at zero and no position fix or compass. -/
def armedSim : Sim Float :=
  ⟨Params.default, Environment.new { EnvConfig.calm with armed := true }, some Clock.start,
    none, none, Boat.initial⟩

/-- A keyframe disarming the boat at 1 ms and one setting nothing at 2 ms. -/
def briefDisarm : List Keyframe := [⟨0.001, [], some false⟩, ⟨0.002, [], none⟩]

/-- The schedule `briefDisarm` builds. -/
def briefSchedule : Schedule :=
  ⟨[⟨0.001, Controls.neutral, some false⟩, ⟨0.002, Controls.neutral, none⟩]⟩

/-- The armed stock boat replaying `briefSchedule`. -/
def briefRunner : Runner := { sim := armedSim, schedule := some briefSchedule }

/-- Two steps of `briefRunner`: the second runs with the flag of the keyframe in effect at
2.5 ms, which sets none, so with the flag the run started with. -/
theorem brief_disarm_follows_step_starts :
    (Schedule.build briefDisarm = .ok briefSchedule ∧ briefRunner.schedule = some briefSchedule) ∧
      (briefRunner.simAfter "brief" 2).env.armed =
          ((List.range 2).filterMap fun j =>
              Schedule.armedOf (briefSchedule.setpoint (briefRunner.simAfter "brief" j).seconds)).getLast?.getD
            briefRunner.sim.env.armed ∧
        ((∀ f ∈ briefDisarm, f.t.isNaN = false) →
          (briefRunner.simAfter "brief" 2).env.armed =
            ((List.range 2).filterMap fun j =>
                Schedule.flagInEffect briefDisarm (briefRunner.simAfter "brief" j).seconds).getLast?.getD
              briefRunner.sim.env.armed) :=
  ⟨⟨rfl, rfl⟩, armed_follows_keyframes_at_step_starts briefRunner "brief" rfl rfl 1⟩

/-- The stock time step is 2.5 ms, so both keyframes fall inside the first step, and at the
start of the second step, at 2.5 ms, the second is in effect.  The disarming keyframe is the last
one before 2.5 ms that sets a flag, but the update of the second step runs armed. -/
theorem brief_disarm_lost :
    Sim.new Params.default (some (Environment.new { EnvConfig.calm with armed := true }))
        (some Clock.start) none none = .ok armedSim ∧
      Schedule.build briefDisarm = .ok briefSchedule ∧
      (briefRunner.simAfter "brief" 1).seconds = 0.0025 ∧
      (briefRunner.simAfter "brief" 2).env.armed ≠
        (Schedule.lastFlagSet briefDisarm (briefRunner.simAfter "brief" 1).seconds).getD
          briefRunner.sim.env.armed := by
  refine ⟨rfl, rfl, ?_, ?_⟩ <;> decide +kernel

end Runner

end SailSim
