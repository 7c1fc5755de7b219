import Mathlib
import SailSim.Proofs.Rotation
import SailSim.Sim.Basic

/-!
# The roll a direct heel policy reports

Under the direct heel policy a step first turns the attitude at the body rates and normalizes
it, then rebuilds it from Euler angles: the heel angle of the sail's heel force as the roll,
the pitch and yaw of the turned attitude kept, and normalizes again.  Nothing later in the step
touches the attitude, so the reported attitude is the Euler reading of that rebuilt rotation.

In exact arithmetic the reading gives back what was built (`Dcm.normalize_ofEuler`,
`Dcm.toEuler_ofEuler`), except at gimbal lock:

* `Dcm.yaw_eq_zero_of_vertical` : a normalized attitude pitched to `±π/2` already reads a yaw
  of `0`, so the yaw the rebuilt attitude reports is the turned attitude's in every case;
* `Sim.direct_heel_sets_reported_roll` : **the reported roll is the heel angle of the step's
  heel force, within `±π/4`, unless the turned attitude is pitched to `±π/2`, where it is `0`;
  the reported pitch and yaw are those of the attitude turned at the body rates.**
-/

namespace SailSim

namespace Dcm

/-! ### Normalized attitudes at gimbal lock -/

/-- A vector whose first component, scaled by its inverse length, is at least one in size lies
along the first axis. -/
theorem axis_of_one_le_sq {v : Vec3 ℝ} (h : 1 ≤ (v.x * (1 / v.length)) ^ 2) :
    v.y = 0 ∧ v.z = 0 ∧ v.x ≠ 0 := by
  have hS : 0 ≤ v.x * v.x + v.y * v.y + v.z * v.z := Vec3.dot_self_nonneg v
  have hlen : v.length = Real.sqrt (v.x * v.x + v.y * v.y + v.z * v.z) := rfl
  rcases eq_or_lt_of_le (Real.sqrt_nonneg (v.x * v.x + v.y * v.y + v.z * v.z)) with h0 | hpos
  · rw [hlen, ← h0] at h
    norm_num at h
  · rw [hlen] at h
    set L := Real.sqrt (v.x * v.x + v.y * v.y + v.z * v.z)
    have hL : L ^ 2 = v.x * v.x + v.y * v.y + v.z * v.z := Real.sq_sqrt hS
    -- the scaled component is at least one in size, so the first component carries the length
    have hx : L ^ 2 ≤ v.x ^ 2 := by
      rw [mul_one_div, div_pow, le_div_iff₀ (by positivity), one_mul] at h
      exact h
    have hy : v.y = 0 := by nlinarith
    have hz : v.z = 0 := by nlinarith
    refine ⟨hy, hz, fun hx0 => ?_⟩
    rw [hx0] at hx
    nlinarith

/-- The cross product of two vectors that lies along the first axis leaves both with no first
component. -/
theorem x_eq_zero_of_cross_axis {u w : Vec3 ℝ} (hy : (u.cross w).y = 0) (hz : (u.cross w).z = 0)
    (hx : (u.cross w).x ≠ 0) : u.x = 0 ∧ w.x = 0 := by
  -- the cross product is orthogonal to both factors
  have hu : u.x * (u.cross w).x + u.y * (u.cross w).y + u.z * (u.cross w).z = 0 :=
    Vec3.dot_cross_self_left u w
  have hw : w.x * (u.cross w).x + w.y * (u.cross w).y + w.z * (u.cross w).z = 0 :=
    Vec3.dot_cross_self_right u w
  rw [hy, hz, mul_zero, mul_zero, add_zero, add_zero] at hu hw
  exact ⟨(mul_eq_zero.1 hu).resolve_right hx, (mul_eq_zero.1 hw).resolve_right hx⟩

/-- **A normalized attitude pitched to `±π/2` reads a yaw of `0`.** Its third row is a unit
vector along the first axis; it is the cross product of the other two rows before scaling, so
both of those have no first component, and the yaw reads the angle of the point `(0, 0)`. -/
theorem yaw_eq_zero_of_vertical (m : Dcm ℝ)
    (h : m.normalize.toEuler.pitch = Real.pi / 2 ∨ m.normalize.toEuler.pitch = -(Real.pi / 2)) :
    m.normalize.toEuler.yaw = 0 := by
  obtain ⟨t₀, t₁, hN⟩ : ∃ t₀ t₁, m.normalize = frameOf t₀ t₁ := ⟨_, _, normalize_eq_frameOf m⟩
  have hsq : 1 ≤ ((t₀.cross t₁).x * (1 / (t₀.cross t₁).length)) ^ 2 := by
    simp only [hN, frameOf, toEuler, boundedAsin_real, Vec3.scale] at h
    rcases h with h | h
    · have := Real.arcsin_eq_neg_pi_div_two.1 (neg_eq_iff_eq_neg.1 h)
      nlinarith
    · have := Real.arcsin_eq_pi_div_two.1 (neg_inj.1 h)
      nlinarith
  obtain ⟨hy, hz, hx⟩ := axis_of_one_le_sq hsq
  obtain ⟨h₀, h₁⟩ := x_eq_zero_of_cross_axis hy hz hx
  simp only [hN, frameOf, toEuler, Vec3.scale, h₀, h₁, zero_mul, atan2_zero_zero]

end Dcm

/-! ### The direct heel policy -/

namespace Boat

variable {α : Type} [Scalar α]

/-- The attitude a step reaches by turning at the body rates alone, before a heel policy acts
on it. -/
def gyroAttitude (p : Params α) (dcm : Dcm α) (gyro : Vec3 α) : Dcm α :=
  (dcm.rotate (gyro.scale p.timeStep)).normalize

/-- Under the direct policy the attitude is rebuilt from the heel angle and the turned
attitude's pitch and yaw. -/
theorem integrateAttitude_direct {p : Params α} (hp : p.heelPolicy = .direct) (dcm : Dcm α)
    (gyro : Vec3 α) (heelForce : α) :
    integrateAttitude p dcm gyro heelForce =
      (Dcm.ofEuler (heelAngle heelForce p.heelAngleGain) (gyroAttitude p dcm gyro).toEuler.pitch
        (gyroAttitude p dcm gyro).toEuler.yaw).normalize := by
  simp only [integrateAttitude, hp, gyroAttitude]

end Boat

/-- The heel angle lies within `±π/4`: the heel is bounded to ±45°. -/
theorem abs_heelAngle_le (heelForce gain : ℝ) : |heelAngle heelForce gain| ≤ Real.pi / 4 := by
  have hdeg : |Scalar.clamp (heelForce * gain) (-45) 45| ≤ 45 :=
    Scalar.abs_clamp_le _ le_rfl (by norm_num)
  show |Scalar.clamp (heelForce * gain) (-45) 45 * Scalar.pi / 180| ≤ Real.pi / 4
  rw [Scalar.pi_real, abs_div, abs_mul, abs_of_pos Real.pi_pos,
    abs_of_pos (by norm_num : (0 : ℝ) < 180)]
  have := Real.pi_pos
  calc |Scalar.clamp (heelForce * gain) (-45) 45| * Real.pi / 180 ≤ 45 * Real.pi / 180 := by gcongr
    _ = Real.pi / 4 := by ring

theorem heelAngle_mem_Ioc (heelForce gain : ℝ) :
    heelAngle heelForce gain ∈ Set.Ioc (-Real.pi) Real.pi := by
  have h := abs_le.1 (abs_heelAngle_le heelForce gain)
  have := Real.pi_pos
  exact ⟨by linarith [h.1], by linarith [h.2]⟩

/-- One step under the direct policy: the attitude the step reports is the heel angle as roll
with the turned attitude's pitch and yaw, except at gimbal lock, where the roll reads `0`. -/
theorem Boat.step_toEuler_direct {p : Params ℝ} (hp : p.heelPolicy = .direct)
    (env : Environment ℝ) (c : Controls) (b : Boat ℝ) :
    (step p env c b).dcm.toEuler =
      if (gyroAttitude p b.dcm (step p env c b).gyro).toEuler.pitch = Real.pi / 2 ∨
          (gyroAttitude p b.dcm (step p env c b).gyro).toEuler.pitch = -(Real.pi / 2) then
        ⟨0, (gyroAttitude p b.dcm (step p env c b).gyro).toEuler.pitch,
          (gyroAttitude p b.dcm (step p env c b).gyro).toEuler.yaw⟩
      else
        ⟨heelAngle (step p env c b).last.sail.heel p.heelAngleGain,
          (gyroAttitude p b.dcm (step p env c b).gyro).toEuler.pitch,
          (gyroAttitude p b.dcm (step p env c b).gyro).toEuler.yaw⟩ := by
  rw [step_dcm, integrateAttitude_direct hp, Dcm.normalize_ofEuler,
    Dcm.toEuler_ofEuler (heelAngle_mem_Ioc _ _) (Dcm.toEuler_pitch_mem _) (Dcm.toEuler_yaw_mem _)]
  split
  · rename_i hlock
    -- the turned attitude is normalized, so at gimbal lock its yaw already reads `0`
    rw [gyroAttitude, Dcm.yaw_eq_zero_of_vertical _ hlock]
  · rfl

/-- **Direct-angle heel sets the reported roll and keeps it bounded.** Under the direct heel
policy, from every state and for every command, the roll the sensors report after an update is
the heel angle of the step's heel force (`clamp (heel · gain, -45°, 45°)` in radians), unless the
attitude turned at the body rates is pitched to `±π/2`, where it is `0`; either way it lies
within `±π/4`.  The reported pitch and yaw are those of the turned attitude. -/
theorem Sim.direct_heel_sets_reported_roll (s : Sim ℝ) (hp : s.params.heelPolicy = .direct)
    (c : Controls) :
    let g := (Boat.gyroAttitude s.params s.boat.dcm (s.update c).boat.gyro).toEuler
    (s.update c).state.attitude.roll =
        (if g.pitch = Real.pi / 2 ∨ g.pitch = -(Real.pi / 2) then 0
          else heelAngle (s.update c).boat.last.sail.heel s.params.heelAngleGain) ∧
      |(s.update c).state.attitude.roll| ≤ Real.pi / 4 ∧
      (s.update c).state.attitude.pitch = g.pitch ∧
      (s.update c).state.attitude.yaw = g.yaw := by
  dsimp only
  obtain ⟨m, hboat⟩ := s.update_boat c
  simp only [Sim.state, hboat]
  rw [Boat.step_toEuler_direct hp]
  split
  · exact ⟨rfl, by rw [abs_zero]; positivity, rfl, rfl⟩
  · exact ⟨rfl, abs_heelAngle_le _ _, rfl, rfl⟩

/-- The stock boat, in calm air and at rest, reports a roll within `±π/4` after one update. -/
theorem Sim.stock_boat_reports_bounded_roll :
    (Params.default : Params ℝ).heelPolicy = .direct ∧
      |((⟨Params.default, Environment.new EnvConfig.calm, none, none, none, Boat.initial⟩ :
        Sim ℝ).update Controls.neutral).state.attitude.roll| ≤ Real.pi / 4 :=
  ⟨rfl, (Sim.direct_heel_sets_reported_roll _ rfl Controls.neutral).2.1⟩

end SailSim
