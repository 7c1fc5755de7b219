import Mathlib
import SailSim.Proofs.Binary64.Interpolation
import SailSim.Proofs.Binary64.Zeros
import SailSim.Sim.Basic

/-!
# What the parameter checks let through

`Params.check` rejects a time step, mass or turning circle at or below zero, a steering
angle outside `(0, 90)` and a negative sail area.  Each check is a comparison, and in binary64
every comparison with NaN is false, so a NaN passes every check; and NaN, like an infinity,
goes on through every sum and product of a step:

* `Params.check_eq_none_iff_float` : binary64 parameters pass exactly when each checked value
  is NaN or in its range;
* `Boat.step_position_not_finite` : a time step that is not finite (NaN or an infinity) leaves
  a position that is not finite after every step;
* `Boat.step_nan_of_mass` : a NaN mass makes the velocity and the position NaN after every
  step, through the forward acceleration it divides;
* **`Params.checks_pass_nan`** gathers the three.

So the checks do not keep a run finite: `Sim.nan_time_step_breaks_first_update` builds a
simulation from the stock parameters with a NaN time step, which `Sim.new` accepts, and its
first update leaves the boat at a position that is not finite.
-/

namespace SailSim

namespace Binary64

open Float.Model

theorem isNaN_iff_unpack {x : Float} : x.isNaN = true ↔ x.toModel.unpack = .notANumber := by
  rw [isNaN_eq_unpack]
  cases x.toModel.unpack <;> simp [UnpackedFloat.isNaN]

/-! ## NaN goes through every operation of a step -/

theorem add_isNaN_left {x : Float} (hx : x.isNaN = true) (y : Float) : (x + y).isNaN = true := by
  calc (x + y).isNaN
      = (UnpackedFloat.add Format.binary64 x.toModel.unpack y.toModel.unpack).isNaN :=
        isNaN_unpack_pack _
    _ = true := by rw [isNaN_iff_unpack.1 hx]; rfl

theorem add_isNaN_right (x : Float) {y : Float} (hy : y.isNaN = true) : (x + y).isNaN = true := by
  calc (x + y).isNaN
      = (UnpackedFloat.add Format.binary64 x.toModel.unpack y.toModel.unpack).isNaN :=
        isNaN_unpack_pack _
    _ = true := by rw [isNaN_iff_unpack.1 hy]; cases x.toModel.unpack <;> rfl

theorem mul_isNaN_left {x : Float} (hx : x.isNaN = true) (y : Float) : (x * y).isNaN = true := by
  calc (x * y).isNaN
      = (UnpackedFloat.mul Format.binary64 x.toModel.unpack y.toModel.unpack).isNaN :=
        isNaN_unpack_pack _
    _ = true := by rw [isNaN_iff_unpack.1 hx]; rfl

theorem mul_isNaN_right (x : Float) {y : Float} (hy : y.isNaN = true) : (x * y).isNaN = true := by
  calc (x * y).isNaN
      = (UnpackedFloat.mul Format.binary64 x.toModel.unpack y.toModel.unpack).isNaN :=
        isNaN_unpack_pack _
    _ = true := by rw [isNaN_iff_unpack.1 hy]; cases x.toModel.unpack <;> rfl

theorem div_isNaN_right (x : Float) {y : Float} (hy : y.isNaN = true) : (x / y).isNaN = true := by
  calc (x / y).isNaN
      = (UnpackedFloat.div Format.binary64 x.toModel.unpack y.toModel.unpack).isNaN :=
        isNaN_unpack_pack _
    _ = true := by rw [isNaN_iff_unpack.1 hy]; cases x.toModel.unpack <;> rfl

/-! ## Comparisons against a number

Against a number that is not NaN, a comparison fails exactly when the other side is NaN or
the opposite comparison holds. -/

theorem not_le_of_isNaN_left {x : Float} (hx : x.isNaN = true) (y : Float) : ¬ x ≤ y := by
  rw [le_iff_unpack, isNaN_iff_unpack.1 hx]
  exact Bool.false_ne_true

theorem not_le_of_isNaN_right (x : Float) {y : Float} (hy : y.isNaN = true) : ¬ x ≤ y :=
  fun h => Bool.false_ne_true ((isNaN_of_le_right h).symm.trans hy)

theorem not_lt_of_isNaN_left {x : Float} (hx : x.isNaN = true) (y : Float) : ¬ x < y := by
  rw [lt_iff_unpack, isNaN_iff_unpack.1 hx]
  exact Bool.false_ne_true

theorem not_le_iff {x y : Float} (hy : y.isNaN = false) :
    ¬ x ≤ y ↔ x.isNaN = true ∨ y < x := by
  cases hx : x.isNaN
  · rw [le_iff_not_lt hx hy, not_not]
    simp
  · simp only [true_or, iff_true]
    exact not_le_of_isNaN_left hx y

theorem not_ge_iff {x y : Float} (hy : y.isNaN = false) :
    ¬ y ≤ x ↔ x.isNaN = true ∨ x < y := by
  cases hx : x.isNaN
  · rw [le_iff_not_lt hy hx, not_not]
    simp
  · simp only [true_or, iff_true]
    exact not_le_of_isNaN_right y hx

theorem not_lt_iff {x y : Float} (hy : y.isNaN = false) :
    ¬ x < y ↔ x.isNaN = true ∨ y ≤ x := by
  cases hx : x.isNaN
  · rw [le_iff_not_lt hy hx]
    simp
  · simp only [true_or, iff_true]
    exact not_lt_of_isNaN_left hx y

end Binary64

open Binary64

namespace Params

/-- The checks pass exactly when none of their comparisons holds. -/
theorem check_eq_none_iff {α : Type} [Scalar α] (p : Params α) :
    p.check = none ↔
      ¬ p.timeStep ≤ 0 ∧ ¬ p.mass ≤ 0 ∧
        ¬ (p.steering.maxAngle ≤ 0 ∨ 90 ≤ p.steering.maxAngle) ∧
        ¬ p.steering.turningCircle ≤ 0 ∧ ¬ p.rig.area < 0 := by
  unfold check
  split_ifs <;> simp_all

/-- Binary64 parameters pass the checks exactly when each checked value is NaN or in its
range. -/
theorem check_eq_none_iff_float (p : Params Float) :
    p.check = none ↔
      (p.timeStep.isNaN = true ∨ 0 < p.timeStep) ∧ (p.mass.isNaN = true ∨ 0 < p.mass) ∧
        (p.steering.maxAngle.isNaN = true ∨
          0 < p.steering.maxAngle ∧ p.steering.maxAngle < 90) ∧
        (p.steering.turningCircle.isNaN = true ∨ 0 < p.steering.turningCircle) ∧
        (p.rig.area.isNaN = true ∨ 0 ≤ p.rig.area) := by
  have h0 : (0 : Float).isNaN = false := isNaN_ofNat 0
  have h90 : (90 : Float).isNaN = false := isNaN_ofNat 90
  rw [check_eq_none_iff, not_or, not_le_iff h0, not_le_iff h0, not_le_iff h0, not_ge_iff h90,
    not_le_iff h0, not_lt_iff h0, ← or_and_left]

end Params

namespace Boat

variable (p : Params Float) (env : Environment Float) (c : Controls) (b : Boat Float)

theorem step_position_x :
    (step p env c b).position.x = b.position.x + (step p env c b).velocity.x * p.timeStep := by
  rw [step_position]
  rfl

theorem step_position_not_finite (h : p.timeStep.isFinite = false) :
    (step p env c b).position.x.isFinite = false := by
  rw [step_position_x]
  exact add_isFinite_right _ (mul_isFinite_right _ h)

/-- The heading-frame forward acceleration is divided by the mass, and the first row of the
heading rotation takes it into the northward acceleration. -/
theorem step_accelEarth_nan_of_mass (h : p.mass.isNaN = true) :
    (step p env c b).last.accelEarth.x.isNaN = true := by
  rw [step_last_accelEarth]
  exact add_isNaN_left (add_isNaN_left (mul_isNaN_right _ (div_isNaN_right _ h)) _) _

theorem step_nan_of_mass (h : p.mass.isNaN = true) :
    (step p env c b).velocity.x.isNaN = true ∧ (step p env c b).position.x.isNaN = true := by
  have hwater : (step p env c b).velocityWater.x.isNaN = true := by
    rw [step_velocityWater]
    exact add_isNaN_right _ (mul_isNaN_left (step_accelEarth_nan_of_mass p env c b h) _)
  have hvel : (step p env c b).velocity.x.isNaN = true := by
    rw [step_velocity_eq]
    exact add_isNaN_left hwater _
  refine ⟨hvel, ?_⟩
  rw [step_position_x]
  exact add_isNaN_right _ (mul_isNaN_left hvel _)

end Boat

namespace Params

/-- **The checks let NaN through.**  Binary64 parameters pass exactly when each checked value
is NaN or in its range; and such parameters need not keep a step finite: a time step that is
not finite leaves a position that is not finite, and a NaN mass a NaN velocity and position,
after every step from every boat. -/
theorem checks_pass_nan (p : Params Float) :
    (p.check = none ↔
      (p.timeStep.isNaN = true ∨ 0 < p.timeStep) ∧ (p.mass.isNaN = true ∨ 0 < p.mass) ∧
        (p.steering.maxAngle.isNaN = true ∨
          0 < p.steering.maxAngle ∧ p.steering.maxAngle < 90) ∧
        (p.steering.turningCircle.isNaN = true ∨ 0 < p.steering.turningCircle) ∧
        (p.rig.area.isNaN = true ∨ 0 ≤ p.rig.area)) ∧
    ∀ env c b,
      (p.timeStep.isFinite = false → (Boat.step p env c b).position.x.isFinite = false) ∧
      (p.mass.isNaN = true → (Boat.step p env c b).velocity.x.isNaN = true ∧
        (Boat.step p env c b).position.x.isNaN = true) :=
  ⟨check_eq_none_iff_float p, fun env c b =>
    ⟨Boat.step_position_not_finite p env c b, Boat.step_nan_of_mass p env c b⟩⟩

/-- The stock parameters with a NaN mass pass the checks, and a step from rest gives a NaN
velocity. -/
theorem nan_mass_passes_checks :
    ({ (Params.default : Params Float) with mass := (0 / 0 : Float) }).check = none ∧
      (Boat.step { (Params.default : Params Float) with mass := (0 / 0 : Float) }
        (Environment.new EnvConfig.calm) Controls.neutral Boat.initial).velocity.x.isNaN =
          true := by
  generalize hp : { (Params.default : Params Float) with mass := (0 / 0 : Float) } = p
  have hnan : p.mass.isNaN = true := by rw [← hp]; decide +kernel
  have hrest : 0 < p.timeStep ∧ 0 < p.steering.maxAngle ∧ p.steering.maxAngle < 90 ∧
      0 < p.steering.turningCircle ∧ 0 ≤ p.rig.area := by
    rw [← hp]; decide +kernel
  obtain ⟨hts, hmin, hmax, htc, harea⟩ := hrest
  obtain ⟨hcheck, hstep⟩ := checks_pass_nan p
  refine ⟨hcheck.2 ⟨Or.inr hts, Or.inl hnan, Or.inr ⟨hmin, hmax⟩, Or.inr htc, Or.inr harea⟩,
    ?_⟩
  exact ((hstep _ _ _).2 hnan).1

end Params

namespace Sim

/-- The stock parameters with a NaN time step are accepted by `Sim.new`, and the first update
leaves the boat at a position that is not finite. -/
theorem nan_time_step_breaks_first_update :
    ∃ s, Sim.new { (Params.default : Params Float) with timeStep := (0 / 0 : Float) }
        (some (Environment.new EnvConfig.calm)) none none none = .ok s ∧
      (s.update Controls.neutral).state.position.x.isFinite = false := by
  generalize hp : { (Params.default : Params Float) with timeStep := (0 / 0 : Float) } = p
  have hcheck : p.check = none := by rw [← hp]; decide +kernel
  have hmotor : Params.frameHasMotor p.frame = false := by rw [← hp]; decide
  have hts : p.timeStep.isFinite = false := by rw [← hp]; decide +kernel
  refine ⟨⟨p, Environment.new EnvConfig.calm, none, none, none, Boat.initial⟩, ?_, ?_⟩
  · simp only [Sim.new, Params.validate, hcheck]
    simp [hmotor]
  · obtain ⟨m, hboat⟩ := update_boat ⟨p, Environment.new EnvConfig.calm, none, none, none,
      Boat.initial⟩ Controls.neutral
    simp only [state, hboat]
    exact Boat.step_position_not_finite _ _ _ _ hts

end Sim

end SailSim
