import SailSim.Proofs.CalmWater
import SailSim.Proofs.CurveLookup
import SailSim.Proofs.Mirror.Step
import SailSim.Proofs.Validation

/-!
# Signs of the sail forces

In exact arithmetic the sail is physically signed for every boat the checks accept, as long as
its air density is not negative under dynamic pressure scaling:

* `Rig.drag_lookup_pos` : the drag curve reads a positive coefficient at every angle, since
  its reading lies between two of its coefficients, all at least `0.1`;
* `Rig.liftDrag_drag_nonneg` : drag is never negative when neither the sail area nor the air
  density is;
* `Rig.sheet_angles` : a sheeted sail's angle lies in `[0°, 90°]`; its angle of attack has the
  sign of the apparent wind, and its size is the part of the apparent angle past the sail,
  never more than the apparent angle;
* `Rig.wing_angles` : a wing's angle lies in `[-90°, 90°]`, and it meets the wind at the
  apparent angle less the sail angle;
* **`Rig.forces_physically_signed`** : all of these, and no force in still air, for the sail
  of every boat the checks accept whose air density is not negative under dynamic pressure
  scaling.

The checks never read the air density, and in binary64 they pass an infinite sail area:
`Rig.unphysical_sails_accepted` gives an accepted boat whose sail reads NaN in still air, and
one whose sail drags backwards.
-/

namespace SailSim

namespace Rig

/-! ### Drag -/

/-- Every drag coefficient of the curve is at least `0.1`. -/
theorem drag_coefficient_pos : ∀ b ∈ (Curve.drag : Curve ℝ), 0 < b.coefficient := by
  simp only [Curve.drag, Curve.ofPairs, List.map_cons, List.map_nil, List.mem_cons,
    List.not_mem_nil, or_false]
  rintro b (rfl | rfl | rfl | rfl | rfl | rfl | rfl | rfl | rfl | rfl | rfl | rfl | rfl | rfl |
    rfl | rfl | rfl | rfl) <;>
    simp [Scalar.ofScientific_real] <;> norm_num

/-- The drag curve reads a positive coefficient at every angle. -/
theorem drag_lookup_pos (a : ℝ) : 0 < Curve.drag.lookup a := by
  rw [Curve.lookup_eq_piecewiseLinear_real]
  obtain ⟨lo, hlo, -, -, hle, -⟩ :=
    Curve.piecewiseLinear_between Curve.drag (by simp [Curve.drag, Curve.ofPairs])
      |Curve.wrapDeg180 a|
  exact lt_of_lt_of_le (drag_coefficient_pos lo hlo) hle

variable (r : Rig ℝ)

/-- Drag is a positive coefficient times `v²A`, and times `ρ/2` under dynamic pressure scaling:
never negative when neither the area nor the density is. -/
theorem liftDrag_drag_nonneg (harea : 0 ≤ r.area)
    (hρ : r.scaling.isSI = true → 0 ≤ r.airDensity) (w aoa : ℝ) :
    0 ≤ (r.liftDrag w aoa).drag := by
  have hk : 0 ≤ w * w * r.area := mul_nonneg (mul_self_nonneg w) harea
  have hcd := (drag_lookup_pos (Curve.wrapDeg180 aoa)).le
  simp only [liftDrag]
  split
  · rename_i hsi
    have hhalf : 0 ≤ (0.5 : ℝ) * r.airDensity := by
      rw [Scalar.ofScientific_real]
      exact mul_nonneg (by norm_num) (hρ hsi)
    exact mul_nonneg hcd (mul_nonneg hk hhalf)
  · exact mul_nonneg hcd hk

/-! ### Angles -/

/-- **A sheeted sail.**  Its angle lies in `[0°, 90°]`; its angle of attack has the sign of the
apparent wind, and its size is the part of the apparent angle past the sail, never more than
the apparent angle. -/
theorem sheet_angles (h : r.kind = .mainsail) (c : Controls) (θ : ℝ) :
    (0 ≤ r.sailAngle c ∧ r.sailAngle c ≤ 90) ∧
      (0 < θ → 0 ≤ r.angleOfAttack θ (r.sailAngle c)) ∧
      (θ < 0 → r.angleOfAttack θ (r.sailAngle c) ≤ 0) ∧
      |r.angleOfAttack θ (r.sailAngle c)| = max (|θ| - r.sailAngle c) 0 ∧
      max (|θ| - r.sailAngle c) 0 ≤ |θ| := by
  have hs₀ := r.sailAngle_nonneg c h
  have hs₉₀ := (abs_le.1 (r.sailAngle_abs_le c)).2
  have hm : 0 ≤ max (|θ| - r.sailAngle c) 0 := le_max_right _ _
  have hmθ : max (|θ| - r.sailAngle c) 0 ≤ |θ| := max_le (by linarith) (abs_nonneg θ)
  -- the sign is `-1` exactly when the apparent wind is negative
  have haoa : r.angleOfAttack θ (r.sailAngle c) =
      if θ < 0 then -max (|θ| - r.sailAngle c) 0 else max (|θ| - r.sailAngle c) 0 := by
    simp only [angleOfAttack, h, Scalar.max_real, Scalar.abs_real, Scalar.zero_real,
      Scalar.signum, Scalar.one_real]
    split_ifs <;> ring
  rw [haoa]
  refine ⟨⟨hs₀, hs₉₀⟩, ?_⟩
  split_ifs with hθ
  · exact ⟨fun h => absurd hθ (not_lt.2 h.le), fun _ => neg_nonpos.2 hm,
      by rw [abs_neg, abs_of_nonneg hm], hmθ⟩
  · exact ⟨fun _ => hm, fun h => absurd h hθ, abs_of_nonneg hm, hmθ⟩

/-- **A wing.**  Its angle lies in `[-90°, 90°]`, and it meets the wind at the apparent angle
less the sail angle. -/
theorem wing_angles (h : r.kind = .wing) (c : Controls) (θ : ℝ) :
    (-90 ≤ r.sailAngle c ∧ r.sailAngle c ≤ 90) ∧
      r.angleOfAttack θ (r.sailAngle c) = θ - r.sailAngle c := by
  refine ⟨abs_le.1 (r.sailAngle_abs_le c), ?_⟩
  simp only [angleOfAttack, h]

/-! ### The whole evaluation -/

theorem forces_sailAngle (c : Controls) (θ w : ℝ) : (r.forces c θ w).sailAngle = r.sailAngle c :=
  rfl

theorem forces_aoa (c : Controls) (θ w : ℝ) :
    (r.forces c θ w).aoa = r.angleOfAttack θ (r.sailAngle c) := rfl

theorem forces_drag (c : Controls) (θ w : ℝ) :
    (r.forces c θ w).drag = (r.liftDrag w (r.angleOfAttack θ (r.sailAngle c))).drag := rfl

/-- **Sail forces are physically signed.**  For the sail of every boat the checks accept whose
air density is not negative under dynamic pressure scaling, at every trim, apparent wind angle
and wind speed: drag is never negative and both forces vanish in still air; a sheeted sail's
angle is in `[0°, 90°]`, its angle of attack has the sign of the apparent wind and is the part
of the apparent angle past the sail; a wing's angle is in `[-90°, 90°]` and its angle of attack
is the apparent angle less the sail angle. -/
theorem forces_physically_signed (p : Params ℝ) (hp : p.validate = .ok p)
    (hρ : p.rig.scaling.isSI = true → 0 ≤ p.rig.airDensity) (c : Controls) (θ w : ℝ) :
    0 ≤ (p.rig.forces c θ w).drag ∧
      (w = 0 → (p.rig.forces c θ w).lift = 0 ∧ (p.rig.forces c θ w).drag = 0) ∧
      (p.rig.kind = .mainsail →
        (0 ≤ (p.rig.forces c θ w).sailAngle ∧ (p.rig.forces c θ w).sailAngle ≤ 90) ∧
        (0 < θ → 0 ≤ (p.rig.forces c θ w).aoa) ∧ (θ < 0 → (p.rig.forces c θ w).aoa ≤ 0) ∧
        |(p.rig.forces c θ w).aoa| = max (|θ| - (p.rig.forces c θ w).sailAngle) 0 ∧
        max (|θ| - (p.rig.forces c θ w).sailAngle) 0 ≤ |θ|) ∧
      (p.rig.kind = .wing →
        (-90 ≤ (p.rig.forces c θ w).sailAngle ∧ (p.rig.forces c θ w).sailAngle ≤ 90) ∧
        (p.rig.forces c θ w).aoa = θ - (p.rig.forces c θ w).sailAngle) := by
  -- the checks leave the sail area not negative
  have harea : 0 ≤ p.rig.area := by
    have hcheck : p.check = none := by
      unfold Params.validate at hp
      split at hp
      · cases hp
      · assumption
    have h := ((Params.check_eq_none_iff p).1 hcheck).2.2.2.2
    rw [Scalar.zero_real] at h
    exact not_lt.1 h
  rw [forces_sailAngle, forces_aoa, forces_drag]
  refine ⟨p.rig.liftDrag_drag_nonneg harea hρ w _, ?_, fun h => sheet_angles p.rig h c θ,
    fun h => wing_angles p.rig h c θ⟩
  rintro rfl
  exact ⟨(forces_becalmed p.rig c θ).1, (forces_becalmed p.rig c θ).2.1⟩

theorem stock_sail_physically_signed :
    (Params.default : Params ℝ).validate = .ok Params.default ∧
      ((Params.default : Params ℝ).rig.scaling.isSI = true →
        0 ≤ (Params.default : Params ℝ).rig.airDensity) ∧
      0 ≤ ((Params.default : Params ℝ).rig.forces Controls.neutral 30 5).drag := by
  have hv : (Params.default : Params ℝ).validate = .ok Params.default := by
    have hcheck : (Params.default : Params ℝ).check = none := by
      simp [Params.check, Params.default, Kinematics.default]
      norm_num
    simp only [Params.validate, hcheck]
  have hρ : (Params.default : Params ℝ).rig.scaling.isSI = true →
      0 ≤ (Params.default : Params ℝ).rig.airDensity := by
    intro _
    simp only [Params.default, Scalar.ofScientific_real]
    norm_num
  exact ⟨hv, hρ, (forces_physically_signed Params.default hv hρ Controls.neutral 30 5).1⟩

/-! ### What the checks let through -/

/-- **Unphysical sails are accepted.**  The stock boat with an infinite sail area passes the
checks, and in still air its sail reads NaN lift and drag; with an air density of `-1` it
passes them too, and its sail drags backwards in a wind of 5 m/s. -/
theorem unphysical_sails_accepted :
    let p₁ : Params Float := { Params.default with rig := { Params.default.rig with area := 1 / 0 } }
    let p₂ : Params Float :=
      { Params.default with rig := { Params.default.rig with airDensity := -1 } }
    p₁.validate = .ok p₁ ∧ (p₁.rig.liftDrag 0 10).lift.isNaN = true ∧
      (p₁.rig.liftDrag 0 10).drag.isNaN = true ∧
      p₂.validate = .ok p₂ ∧ (p₂.rig.liftDrag 5 10).drag < 0 := by
  intro p₁ p₂
  have h₁ : p₁.check.isNone = true := by decide +kernel
  have h₂ : p₂.check.isNone = true := by decide +kernel
  refine ⟨?_, by decide +kernel, by decide +kernel, ?_, by decide +kernel⟩
  · simp only [Params.validate, Option.isNone_iff_eq_none.1 h₁]
  · simp only [Params.validate, Option.isNone_iff_eq_none.1 h₂]

end Rig

end SailSim
