import Mathlib
import SailSim.Proofs.RunLoop

/-!
# Simulated time over a run

The simulation clock counts whole microseconds, and every update moves it on by the time step
rounded to the nearest microsecond, `Clock.ticks dt`.  A run of `d` nanoseconds lasts
`Duration.stepsFor d dt` updates, the quotient `d / dt` rounded to the nearest integer.  The
two roundings are made apart, so a run covers a whole number of clock steps of `ticks dt`
microseconds each, which is a whole number of time steps only when `dt` is a whole number of
microseconds.

* `Clock.micros_advanceBy` : after `k` updates from zero the clock reads `k · ticks dt`
  microseconds, modulo `2⁶⁴`;
* `Clock.advanceBy_strictMono_iff` : the clock moves forward at each of `n` updates exactly
  when a clock step is at least one microsecond and `n` of them stay below `2⁶⁴`;
* `Runner.simAfter_clock` : the clock after `k` steps of a run is its clock moved on `k`
  times by the time step;
* `Runner.run_covers_whole_clock_steps` : **an uncancelled run from a clock at zero makes
  `stepsFor d dt` updates, each moving the clock by `ticks dt` microseconds, and reports the
  time of the clock after them**;
* `Runner.run_overshoots_fine_time_step` : with a time step of 1.5 µs the clock moves 2 µs per
  update, so the two updates of a 3 µs run end at 4 µs, more than half a time step past the
  duration.
-/

namespace SailSim

namespace Clock

variable {α : Type} [Scalar α]

/-- The clock moved on `k` times by `dt` seconds. -/
def advanceBy (c : Clock) (dt : α) : Nat → Clock
  | 0 => c
  | k + 1 => (c.advanceBy dt k).advance dt

/-- After `k` updates from zero the clock has counted `k` clock steps, modulo `2⁶⁴`. -/
theorem micros_advanceBy (dt : α) (k : Nat) :
    (start.advanceBy dt k).micros.toNat = k * (ticks dt).toNat % 2 ^ 64 := by
  induction k with
  | zero => simp [advanceBy, start]
  | succ k ih =>
    rw [advanceBy, advance, UInt64.toNat_add, ih, Nat.succ_mul]
    omega

/-- The clock moves forward at each of `n` updates from zero exactly when there are none, or
when a clock step is at least one microsecond and `n` steps do not reach `2⁶⁴`.  Past `2⁶⁴`
the count wraps, and the first update that crosses it takes the clock back. -/
theorem advanceBy_strictMono_iff (dt : α) (n : Nat) :
    (∀ k < n, (start.advanceBy dt k).micros < (start.advanceBy dt (k + 1)).micros) ↔
      n = 0 ∨ (0 < (ticks dt).toNat ∧ n * (ticks dt).toNat < 2 ^ 64) := by
  have ht : (ticks dt).toNat < 2 ^ 64 := UInt64.toNat_lt _
  simp only [UInt64.lt_iff_toNat_lt, micros_advanceBy]
  generalize (ticks dt).toNat = t at ht ⊢
  constructor
  · intro h
    rcases Nat.eq_zero_or_pos n with hn | hn
    · exact .inl hn
    refine .inr ⟨?_, ?_⟩
    · have h0 := h 0 hn
      simp only [Nat.zero_mul, Nat.zero_mod, Nat.zero_add, Nat.one_mul] at h0
      omega
    · rcases Nat.eq_zero_or_pos t with rfl | htpos
      · exact absurd (h 0 hn) (by simp)
      by_contra hwrap
      -- the last count below `2⁶⁴`, and the update after it, which wraps
      have hbelow : (2 ^ 64 - 1) / t * t < 2 ^ 64 := by
        have := Nat.div_mul_le_self (2 ^ 64 - 1) t
        omega
      have habove : 2 ^ 64 ≤ (2 ^ 64 - 1) / t * t + t := by
        have := Nat.lt_mul_div_succ (2 ^ 64 - 1) htpos
        rw [Nat.mul_comm, Nat.succ_mul] at this
        omega
      generalize (2 ^ 64 - 1) / t = k at hbelow habove
      have hkn : k < n := Nat.lt_of_mul_lt_mul_right (a := t) (by omega)
      have hstep := h k hkn
      rw [Nat.succ_mul] at hstep
      omega
  · rintro (rfl | ⟨htpos, hn⟩) k hk
    · exact absurd hk (Nat.not_lt_zero k)
    · have hle : (k + 1) * t ≤ n * t := Nat.mul_le_mul_right t hk
      rw [Nat.mod_eq_of_lt (by rw [Nat.succ_mul] at hle; omega), Nat.mod_eq_of_lt (by omega),
        Nat.succ_mul]
      omega

end Clock

namespace Runner

theorem stepOnce_params (sim : Sim Float) (schedule : Option Schedule) (runId : String)
    (step : Nat) : (stepOnce sim schedule runId step).1.params = sim.params := by
  simp only [stepOnce]
  split <;> (try split) <;> simp [Sim.update_params, Sim.setArmed]

theorem stepOnce_clock (sim : Sim Float) (schedule : Option Schedule) (runId : String)
    (step : Nat) :
    (stepOnce sim schedule runId step).1.clock = sim.clock.map (Clock.advance · sim.params.timeStep) := by
  simp only [stepOnce]
  split <;> (try split) <;> simp [Sim.update_clock, Sim.setArmed]

theorem simAfter_params (r : Runner) (runId : String) (k : Nat) :
    (r.simAfter runId k).params = r.sim.params := by
  induction k with
  | zero => rfl
  | succ k ih => rw [simAfter, stepOnce_params, ih]

/-- The clock after `k` steps of a run: the run's clock moved on `k` times by its time step. -/
theorem simAfter_clock (r : Runner) (runId : String) (k : Nat) :
    (r.simAfter runId k).clock = r.sim.clock.map (·.advanceBy r.sim.params.timeStep k) := by
  induction k with
  | zero =>
    show r.sim.clock = _
    cases r.sim.clock <;> rfl
  | succ k ih =>
    rw [simAfter, stepOnce_clock, ih, simAfter_params]
    cases r.sim.clock <;> rfl

section Run

variable {σ : Type}

/-- **Simulated time of a run.**  A run of `ns` nanoseconds from a clock at zero, whose
publisher never asks to stop, makes all `n = stepsFor ns dt` updates and is not cancelled.
Before its `k`-th update the clock has been moved on `k` times by `dt`; it moves forward at
every update exactly when there are none, or when a clock step `ticks dt` is at least one
microsecond and `n` of them stay below `2⁶⁴`; the run ends at `n · ticks dt` microseconds, modulo
`2⁶⁴`, and the summary reports that time in seconds. -/
theorem run_covers_whole_clock_steps (r : Runner) (pub : Publisher σ) (start : σ) (run : Run)
    (ns : Int) (hstart : r.sim.clock = some Clock.start) (hgo : ∀ p, pub.cancelled p = false) :
    let dt := r.sim.params.timeStep
    let n := (Duration.stepsFor ns dt).toNat
    let o := r.run pub start run ns
    o.summary.steps = n ∧ o.summary.cancelled = false ∧
      (∀ k ≤ n, (r.simAfter run.uuid k).clock = some (Clock.start.advanceBy dt k)) ∧
      ((∀ k < n, (Clock.start.advanceBy dt k).micros < (Clock.start.advanceBy dt (k + 1)).micros) ↔
        n = 0 ∨ (0 < (Clock.ticks dt).toNat ∧ n * (Clock.ticks dt).toNat < 2 ^ 64)) ∧
      (Clock.start.advanceBy dt n).micros.toNat = n * (Clock.ticks dt).toNat % 2 ^ 64 ∧
      o.summary.simTime = (Clock.start.advanceBy dt n).seconds := by
  dsimp only
  obtain ⟨m, hm, -, hstop, -, hsim, hsum⟩ :=
    @loop_takes_samples σ pub run.uuid r.sim.params.timeStep r
      (Duration.stepsFor ns r.sim.params.timeStep).toNat 0 (startLoop r start run) rfl rfl
  -- a publisher that never asks to stop lets the loop take every step
  have hmn : m = (Duration.stepsFor ns r.sim.params.timeStep).toNat := by
    by_contra hne
    have := hstop (by omega)
    rw [hgo] at this
    exact Bool.false_ne_true this
  subst hmn
  have hclock : ∀ k, (r.simAfter run.uuid k).clock =
      some (Clock.start.advanceBy r.sim.params.timeStep k) := by
    intro k
    rw [simAfter_clock, hstart]
    rfl
  refine ⟨?_, ?_, fun k _ => hclock k, Clock.advanceBy_strictMono_iff _ _,
    Clock.micros_advanceBy _ _, ?_⟩
  · rw [run_eq_loop]
    dsimp only
    rw [hsum]
    simp [startLoop]
  · rw [run_eq_loop]
    dsimp only
    rw [hsum]
    simp [startLoop]
  · rw [run_eq_loop]
    dsimp only
    rw [hsim, Nat.zero_add, Sim.seconds, hclock]

end Run

/-- The stock boat stepped every 1.5 µs, with a clock at zero and no position fix or compass. -/
def fineStepSim : Sim Float :=
  ⟨{ Params.default with timeStep := 1.5e-6 }, Environment.new EnvConfig.calm, some Clock.start,
    none, none, Boat.initial⟩

/-- A publisher that takes every sample and never asks to stop. -/
def Publisher.takeAll : Publisher Unit := ⟨fun p _ => (p, true), fun _ => false⟩

/-- A run of three microseconds of `fineStepSim`. -/
def fineStepRun : Run :=
  { uuid := "fine", name := "fine", frame := Params.frameSailboat, startTime := Instant.zero,
    timeStep := 1.5e-6, duration := 3e-6, home := ⟨0, 0, 0⟩ }

/-- The 3 µs run of `fineStepSim` starts from a clock at zero under a publisher that never asks
to stop, so it covers whole clock steps. -/
theorem fine_step_run_covers_clock_steps :
    (fineStepSim.clock = some Clock.start ∧ ∀ p, Publisher.takeAll.cancelled p = false) ∧
      let r : Runner := { sim := fineStepSim }
      let dt := r.sim.params.timeStep
      let n := (Duration.stepsFor 3000 dt).toNat
      let o := r.run Publisher.takeAll () fineStepRun 3000
      o.summary.steps = n ∧ o.summary.cancelled = false ∧
        (∀ k ≤ n, (r.simAfter fineStepRun.uuid k).clock = some (Clock.start.advanceBy dt k)) ∧
        ((∀ k < n, (Clock.start.advanceBy dt k).micros <
            (Clock.start.advanceBy dt (k + 1)).micros) ↔
          n = 0 ∨ (0 < (Clock.ticks dt).toNat ∧ n * (Clock.ticks dt).toNat < 2 ^ 64)) ∧
        (Clock.start.advanceBy dt n).micros.toNat = n * (Clock.ticks dt).toNat % 2 ^ 64 ∧
        o.summary.simTime = (Clock.start.advanceBy dt n).seconds :=
  ⟨⟨rfl, fun _ => rfl⟩,
    run_covers_whole_clock_steps { sim := fineStepSim } Publisher.takeAll () fineStepRun 3000 rfl
      fun _ => rfl⟩

/-- A time step of 1.5 µs is accepted, but the clock moves 2 µs per update, so the two updates
of a 3 µs run end at 4 µs: 1 µs past the duration, more than half a time step. -/
theorem run_overshoots_fine_time_step :
    Sim.new { Params.default with timeStep := 1.5e-6 } (some (Environment.new EnvConfig.calm))
        (some Clock.start) none none = .ok fineStepSim ∧
      (({ sim := fineStepSim } : Runner).run Publisher.takeAll () fineStepRun 3000).summary.steps = 2 ∧
      (({ sim := fineStepSim } : Runner).run Publisher.takeAll () fineStepRun 3000).summary.simTime =
        4e-6 ∧
      ¬ Float.abs ((({ sim := fineStepSim } : Runner).run Publisher.takeAll () fineStepRun
          3000).summary.simTime - 3e-6) ≤ 1.5e-6 / 2 := by
  refine ⟨rfl, ?_, ?_, ?_⟩ <;> decide +kernel

end Runner

end SailSim
