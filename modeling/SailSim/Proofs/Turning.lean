import Mathlib
import SailSim.Proofs.Mirror.Step
import SailSim.Proofs.Validation

/-!
# Turning on the rudder

In exact arithmetic, and for the turning geometries that parameter validation accepts (a full
rudder angle `θ` strictly between 0° and 90° and a positive turning circle `D`), away from its
two guards the yaw rate is

  `yawRate s v = 360 · v · sin (s · θ) / (π · D · sin θ)`,

one lap of the circle `D · sin θ / sin (s · θ)` every `π · d / v` seconds.  A steering fraction
in `[-1, 1]` keeps the rudder angle `s · θ` inside `(-90°, 90°)`, where the sine has the sign of
its argument and grows with its size; every law of the yaw rate rests on that.  A pulse in
`[1000, 2000]` is such a fraction.

* `Params.steering_valid` : validated parameters have a valid turning geometry;
* `Kinematics.fraction_abs_le_one` : pulses in `[1000, 2000]` steer by a fraction in `[-1, 1]`;
* `Kinematics.yawRate_eq_gain_mul` : the yaw rate away from the guards;
* `Kinematics.sign_yawRate` : the yaw rate is zero within the guards and has the sign of
  `s · v` outside them;
* `Kinematics.abs_yawRate_le_of_abs_steering_le`, `Kinematics.abs_yawRate_le_of_abs_speed_le` :
  its size grows with the rudder and with the speed;
* `Kinematics.rudder_turns_boat_in_commanded_direction` : **the laws together**, with the
  oddness in either argument, full rudder turning on the configured circle, and the lateral
  acceleration `yawRate · π / 180 · v`.
-/

namespace SailSim

/-! ### Sines of angles within a half turn -/

/-- Within a half turn of zero the sine has the sign of the angle. -/
theorem sign_sin_of_abs_lt {x : ℝ} (h : |x| < Real.pi) :
    SignType.sign (Real.sin x) = SignType.sign x := by
  obtain ⟨hlo, hhi⟩ := abs_lt.1 h
  rcases lt_trichotomy x 0 with hx | rfl | hx
  · rw [sign_neg hx, sign_neg (Real.sin_neg_of_neg_of_neg_pi_lt hx hlo)]
  · simp
  · rw [sign_pos hx, sign_pos (Real.sin_pos_of_pos_of_lt_pi hx hhi)]

/-- Within a half turn of zero the size of the sine is the sine of the size. -/
theorem abs_sin_of_abs_le {x : ℝ} (h : |x| ≤ Real.pi) : |Real.sin x| = Real.sin |x| := by
  obtain ⟨hlo, hhi⟩ := abs_le.1 h
  rcases le_or_gt 0 x with hx | hx
  · rw [abs_of_nonneg hx, abs_of_nonneg (Real.sin_nonneg_of_nonneg_of_le_pi hx hhi)]
  · rw [abs_of_neg hx, Real.sin_neg,
      abs_of_nonpos (Real.sin_nonpos_of_nonpos_of_neg_pi_le hx.le hlo)]

namespace Kinematics

/-- The turning geometries that parameter validation accepts: a full rudder angle strictly
between 0° and 90°, and a positive turning circle. -/
structure Valid (k : Kinematics ℝ) : Prop where
  maxAngle_pos : 0 < k.maxAngle
  maxAngle_lt : k.maxAngle < 90
  turningCircle_pos : 0 < k.turningCircle

end Kinematics

/-- Parameters that pass validation turn on a valid geometry. -/
theorem Params.steering_valid {p : Params ℝ} (h : p.check = none) : p.steering.Valid := by
  obtain ⟨-, -, hangle, hcircle, -⟩ := (Params.check_eq_none_iff p).1 h
  simp only [not_or, not_le, Scalar.zero_real] at hangle hcircle
  exact ⟨hangle.1, hangle.2, hcircle⟩

namespace Kinematics

variable {k : Kinematics ℝ}

/-! ### The rudder angle -/

theorem Valid.radians_pos (hk : k.Valid) : 0 < Scalar.radians k.maxAngle := by
  simp only [Scalar.radians, Scalar.pi_real]
  have := hk.maxAngle_pos
  positivity

theorem Valid.radians_lt (hk : k.Valid) : Scalar.radians k.maxAngle < Real.pi / 2 := by
  simp only [Scalar.radians, Scalar.pi_real]
  nlinarith [Real.pi_pos, hk.maxAngle_lt]

theorem Valid.sin_radians_pos (hk : k.Valid) : 0 < Real.sin (Scalar.radians k.maxAngle) :=
  Real.sin_pos_of_pos_of_lt_pi hk.radians_pos (by linarith [hk.radians_lt, Real.pi_pos])

/-- A steering fraction in `[-1, 1]` turns the rudder by less than a right angle. -/
theorem Valid.abs_rudder_lt (hk : k.Valid) {s : ℝ} (hs : |s| ≤ 1) :
    |s * Scalar.radians k.maxAngle| < Real.pi / 2 := by
  rw [abs_mul, abs_of_pos hk.radians_pos]
  calc |s| * Scalar.radians k.maxAngle ≤ 1 * Scalar.radians k.maxAngle := by
        gcongr
        exact hk.radians_pos.le
    _ < Real.pi / 2 := by rw [one_mul]; exact hk.radians_lt

theorem radians_steer (s : ℝ) :
    Scalar.radians (s * k.maxAngle) = s * Scalar.radians k.maxAngle := by
  unfold Scalar.radians
  ring

/-- Pulses in `[1000, 2000]` steer by a fraction in `[-1, 1]`. -/
theorem fraction_abs_le_one {n : ℕ} (h₁ : 1000 ≤ n) (h₂ : n ≤ 2000) : |(fraction n : ℝ)| ≤ 1 := by
  have hfrac : (fraction n : ℝ) = ((n : ℝ) - 1500) / 500 := by
    simp only [fraction, Scalar.ofNat_real, Scalar.ofScientific_real]
    norm_num
    ring
  have h₁' : (1000 : ℝ) ≤ n := by exact_mod_cast h₁
  have h₂' : (n : ℝ) ≤ 2000 := by exact_mod_cast h₂
  rw [hfrac, abs_le]
  constructor <;> linarith

/-! ### The guards -/

theorem nearZero_eq_false_iff (v : ℝ) : nearZero v = false ↔ zeroEpsilon ≤ |v| := by
  simp [nearZero, Scalar.abs_real]

/-- A value at least as large as one outside the guard is outside it too. -/
theorem nearZero_eq_false_of_abs_le {a b : ℝ} (h : |a| ≤ |b|) (ha : nearZero a = false) :
    nearZero b = false :=
  (nearZero_eq_false_iff b).2 (le_trans ((nearZero_eq_false_iff a).1 ha) h)

theorem yawRate_of_guard {s v : ℝ} (h : (nearZero s || nearZero v) = true) : k.yawRate s v = 0 := by
  simp [yawRate, h]

/-- Within a guard the yaw rate is no larger than anything. -/
theorem abs_yawRate_le_of_guard {s v : ℝ} (h : (nearZero s || nearZero v) = true) (y : ℝ) :
    |k.yawRate s v| ≤ |y| := by
  rw [yawRate_of_guard h, abs_zero]
  exact abs_nonneg y

/-! ### The yaw rate away from the guards -/

/-- The yaw rate per unit of speed and of the sine of the rudder angle. -/
noncomputable def turnGain (k : Kinematics ℝ) : ℝ :=
  360 / (Real.pi * k.turningCircle * Real.sin (Scalar.radians k.maxAngle))

theorem Valid.turnGain_pos (hk : k.Valid) : 0 < k.turnGain := by
  unfold turnGain
  have := hk.turningCircle_pos
  have := hk.sin_radians_pos
  positivity

/-- Away from the guards the yaw rate is the gain times the speed times the sine of the rudder
angle: the lap time `π · d / v` of the circle `d = D · sin θ / sin (s · θ)` inverted. -/
theorem yawRate_eq_gain_mul {s v : ℝ} (hs : nearZero s = false) (hv : nearZero v = false) :
    k.yawRate s v = k.turnGain * v * Real.sin (s * Scalar.radians k.maxAngle) := by
  simp only [yawRate, turnCircle, hs, hv, Bool.or_self, Bool.false_eq_true, if_false,
    radians_steer, turnGain, Scalar.sin_real, Scalar.pi_real]
  simp only [div_eq_mul_inv, mul_inv, inv_inv]
  ring

/-- **The commanded direction.** Within a guard the yaw rate is zero; outside both, it has the
sign of `s · v`. -/
theorem sign_yawRate (hk : k.Valid) {s : ℝ} (hs : |s| ≤ 1) (v : ℝ) :
    SignType.sign (k.yawRate s v) =
      if |s| < zeroEpsilon ∨ |v| < zeroEpsilon then 0 else SignType.sign (s * v) := by
  split
  · rename_i hguard
    have h : (nearZero s || nearZero v) = true := by
      simpa [nearZero, Scalar.abs_real] using hguard
    rw [yawRate_of_guard h, sign_zero]
  · rename_i hguard
    push Not at hguard
    have hsθ : |s * Scalar.radians k.maxAngle| < Real.pi := by
      linarith [hk.abs_rudder_lt hs, Real.pi_pos]
    rw [yawRate_eq_gain_mul ((nearZero_eq_false_iff s).2 hguard.1)
      ((nearZero_eq_false_iff v).2 hguard.2)]
    rw [sign_mul, sign_mul, sign_pos hk.turnGain_pos, sign_sin_of_abs_lt hsθ, sign_mul,
      sign_pos hk.radians_pos, sign_mul]
    simp [mul_comm]

/-- The yaw rate is odd in the speed. -/
theorem yawRate_neg_speed (s v : ℝ) : k.yawRate s (-v) = -k.yawRate s v := by
  simp only [yawRate, nearZero_neg]
  split <;> simp [div_neg]

/-- Away from the guards, and for a fraction in `[-1, 1]`, the size of the yaw rate is the gain
times the size of the speed times the sine of the size of the rudder angle. -/
theorem abs_yawRate_eq (hk : k.Valid) {s v : ℝ} (hs : |s| ≤ 1) (hs₀ : nearZero s = false)
    (hv₀ : nearZero v = false) :
    |k.yawRate s v| = k.turnGain * |v| * Real.sin (|s| * Scalar.radians k.maxAngle) := by
  have hθ := hk.radians_pos
  have hr : |s * Scalar.radians k.maxAngle| ≤ Real.pi := by
    linarith [hk.abs_rudder_lt hs, Real.pi_pos]
  rw [yawRate_eq_gain_mul hs₀ hv₀, abs_mul, abs_mul, abs_of_pos hk.turnGain_pos,
    abs_sin_of_abs_le hr, abs_mul, abs_of_pos hθ]

/-- **More rudder turns faster.** -/
theorem abs_yawRate_le_of_abs_steering_le (hk : k.Valid) {s₁ s₂ : ℝ} (h : |s₁| ≤ |s₂|)
    (h₂ : |s₂| ≤ 1) (v : ℝ) : |k.yawRate s₁ v| ≤ |k.yawRate s₂ v| := by
  cases hguard : (nearZero s₁ || nearZero v) with
  | true => exact abs_yawRate_le_of_guard hguard _
  | false =>
    simp only [Bool.or_eq_false_iff] at hguard
    obtain ⟨hs₁, hv⟩ := hguard
    have hθ := hk.radians_pos
    rw [abs_yawRate_eq hk (h.trans h₂) hs₁ hv,
      abs_yawRate_eq hk h₂ (nearZero_eq_false_of_abs_le h hs₁) hv]
    -- both rudder angles lie in `[0, π/2)`, where the sine increases
    have hmono : Real.sin (|s₁| * Scalar.radians k.maxAngle) ≤
        Real.sin (|s₂| * Scalar.radians k.maxAngle) := by
      apply Real.sin_le_sin_of_le_of_le_pi_div_two
      · have := mul_nonneg (abs_nonneg s₁) hθ.le
        linarith [Real.pi_pos]
      · have := hk.abs_rudder_lt h₂
        rw [abs_mul, abs_of_pos hθ] at this
        exact this.le
      · exact mul_le_mul_of_nonneg_right h hθ.le
    have := hk.turnGain_pos
    gcongr

/-- **More speed turns faster.** -/
theorem abs_yawRate_le_of_abs_speed_le (s : ℝ) {v₁ v₂ : ℝ} (h : |v₁| ≤ |v₂|) :
    |k.yawRate s v₁| ≤ |k.yawRate s v₂| := by
  cases hguard : (nearZero s || nearZero v₁) with
  | true => exact abs_yawRate_le_of_guard hguard _
  | false =>
    simp only [Bool.or_eq_false_iff] at hguard
    obtain ⟨hs, hv₁⟩ := hguard
    rw [yawRate_eq_gain_mul hs hv₁, yawRate_eq_gain_mul hs (nearZero_eq_false_of_abs_le h hv₁),
      abs_mul, abs_mul, abs_mul (k.turnGain * v₂), abs_mul k.turnGain]
    gcongr

/-! ### Full rudder -/

theorem turnCircle_one (hk : k.Valid) : k.turnCircle 1 = k.turningCircle := by
  have h1 : nearZero (1 : ℝ) = false := by
    rw [nearZero_eq_false_iff, abs_one]
    simp only [zeroEpsilon, Scalar.ofScientific_real]
    norm_num
  simp only [turnCircle, h1, Bool.false_eq_true, if_false, one_mul, Scalar.sin_real]
  rw [mul_div_assoc, div_self hk.sin_radians_pos.ne', mul_one]

/-- Full rudder either way turns on the configured circle. -/
theorem abs_turnCircle_full (hk : k.Valid) :
    |k.turnCircle 1| = k.turningCircle ∧ |k.turnCircle (-1)| = k.turningCircle := by
  rw [turnCircle_neg, abs_neg, turnCircle_one hk, abs_of_pos hk.turningCircle_pos]
  exact ⟨rfl, rfl⟩

/-- **More rudder turns the boat faster in the commanded direction.** For a turning geometry
that validation accepts: pulses in the servo range steer by a fraction in `[-1, 1]`; for such a
fraction the yaw rate is zero within the guards and has the sign of `s · v` outside them; it is
odd in the steering and in the speed; its size does not decrease as the rudder or the speed
grows; full rudder turns on the configured circle; and the lateral acceleration is the yaw rate
in radians times the speed. -/
theorem rudder_turns_boat_in_commanded_direction (hk : k.Valid) :
    (∀ pwm : ℕ, 1000 ≤ pwm → pwm ≤ 2000 → |(fraction pwm : ℝ)| ≤ 1) ∧
    (∀ s v : ℝ, |s| ≤ 1 → SignType.sign (k.yawRate s v) =
      if |s| < zeroEpsilon ∨ |v| < zeroEpsilon then 0 else SignType.sign (s * v)) ∧
    (∀ s v : ℝ, k.yawRate (-s) v = -k.yawRate s v ∧ k.yawRate s (-v) = -k.yawRate s v) ∧
    (∀ s₁ s₂ v : ℝ, |s₁| ≤ |s₂| → |s₂| ≤ 1 → |k.yawRate s₁ v| ≤ |k.yawRate s₂ v|) ∧
    (∀ s v₁ v₂ : ℝ, |v₁| ≤ |v₂| → |k.yawRate s v₁| ≤ |k.yawRate s v₂|) ∧
    (|k.turnCircle 1| = k.turningCircle ∧ |k.turnCircle (-1)| = k.turningCircle) ∧
    (∀ s v : ℝ, k.lateralAccel s v = k.yawRate s v * Real.pi / 180 * v) :=
  ⟨fun _ h₁ h₂ => fraction_abs_le_one h₁ h₂,
   fun _ v hs => sign_yawRate hk hs v,
   fun s v => ⟨yawRate_neg k s v, yawRate_neg_speed s v⟩,
   fun _ _ v h h₂ => abs_yawRate_le_of_abs_steering_le hk h h₂ v,
   fun s _ _ h => abs_yawRate_le_of_abs_speed_le s h,
   abs_turnCircle_full hk,
   fun s v => by simp [lateralAccel, Scalar.radians, Scalar.pi_real]⟩

/-- The stock boat passes validation, and its full rudder turns on its 1.8 m circle. -/
theorem stock_rudder_turns_on_its_circle :
    (Kinematics.default : Kinematics ℝ).Valid ∧
      |(Kinematics.default : Kinematics ℝ).turnCircle 1| = 1.8 := by
  have hcheck : (Params.default : Params ℝ).check = none := by
    simp [Params.check, Params.default, Kinematics.default, Scalar.ofScientific_real]
    norm_num
  have hk : (Kinematics.default : Kinematics ℝ).Valid := Params.steering_valid hcheck
  exact ⟨hk, (rudder_turns_boat_in_commanded_direction hk).2.2.2.2.2.1.1⟩

end Kinematics

end SailSim
