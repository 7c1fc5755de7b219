import Mathlib
import SailSim.Proofs.CalmWater
import SailSim.Proofs.FloatClass
import SailSim.Proofs.LevelTurn

/-!
# On the surface, and upright

Only the swell's heave moves the boat vertically.  The vertical acceleration of a step is not
the body acceleration turned to the earth frame but the heave the swell left pending at the end
of the step before, and the tide has no vertical part.  The swell computes a heave of its own
only in heave mode, armed and enabled; otherwise the heave it leaves cancels the vertical
velocity, which is zero.  So a boat on the surface, with nothing vertical and no heave pending,
stays there through every step whose swell does not heave it.  This holds in binary64: each
vertical quantity is a zero of either sign times a finite number, or a sum of two zeros.

Under the torque heel policy a disarmed heel model gives no roll rate, and a disarmed swell
only levels the boat, so a level boat turns about the vertical alone.  The yaw rate turns the
first two rows of the attitude within the horizontal plane, lengthening them by the same factor,
and `normalize` scales them back.  In exact arithmetic the vertical row stays `(0, 0, 1)`.  In
binary64 the rows stay a quarter turn of each other and the vertical row stays two zeros and an
entry of positive sign (`Dcm.Level`, from `SailSim.Proofs.LevelTurn`) only while the attitude
stays finite: a yaw rate large enough overflows the first two rows, and their cross product,
the vertical row, becomes NaN.  Short of that, the square of the cross product's length may
overflow alone, and the vertical row is then scaled to `(0, 0, +0)`.

* `Boat.step_onSurface`, `Boat.drive_onSurface` : a step, and any sequence of steps, whose
  swell does not heave the boat keep it on the surface, in binary64;
* `Dcm.PureYaw.rotate_normalize`, `Boat.step_upright`, `Boat.drive_upright` : in exact
  arithmetic a disarmed step under the torque policy keeps an upright boat upright, with the
  vertical row `(0, 0, 1)`;
* `Boat.step_level`, `Boat.drive_level` : in binary64 it keeps a level boat level, as long as the
  attitude stays finite;
* `Boat.drive_stays_on_surface_and_upright` : **both invariants over whole runs, in binary64:
  on the surface, and, while the attitude stays finite, no roll, no pitch, the vertical row two
  zeros and `+0` or a positive entry, and no roll rate**;
* `Boat.tight_turn_loses_attitude` : a motor boat whose turning circle is `1e-300` m, steered
  hard over at full throttle, has a NaN roll after two disarmed steps.
-/

namespace SailSim

open Binary64

namespace Dcm

/-- The rows of a turn about the vertical, scaled by the length of `(x, y)`: the heading row
`(x, y, 0)`, its quarter turn `(-y, x, 0)`, and the vertical. -/
def planar (x y : ℝ) : Dcm ℝ := ⟨⟨x, y, 0⟩, ⟨-y, x, 0⟩, ⟨0, 0, 1⟩⟩

/-- A rotation about the vertical alone: the rows of `planar x y` for a unit `(x, y)`. -/
def PureYaw (m : Dcm ℝ) : Prop := ∃ x y, x * x + y * y = 1 ∧ m = planar x y

/-- A yaw rate turns the first two rows within the horizontal plane. -/
theorem rotate_planar (x y γ : ℝ) :
    (planar x y).rotate ⟨0, 0, γ⟩ = planar (x + y * γ) (y - x * γ) := by
  ext <;> simp [rotate, rowDelta, planar] <;> ring

/-- The first two rows of `planar x y` are orthogonal and of the same length, so `normalize`
only scales them to unit length, and their cross product is vertical. -/
theorem normalize_planar {x y : ℝ} (h : 0 < x * x + y * y) :
    (planar x y).normalize =
      planar (x * (1 / Real.sqrt (x * x + y * y))) (y * (1 / Real.sqrt (x * x + y * y))) := by
  have horth : -(x * y) + y * x = 0 := by ring
  ext <;> simp [normalize, planar, Vec3.dot, Vec3.cross, Vec3.length, Vec3.scale,
    Scalar.sqrt_real, horth, add_comm (y * y), Real.sqrt_mul_self h.le, h.ne']

theorem pureYaw_identity : (identity : Dcm ℝ).PureYaw :=
  ⟨1, 0, by norm_num, by ext <;> simp [identity, planar]⟩

/-- **A turn about the vertical stays one.**  Rotating by a yaw rate lengthens the unit heading
row to `√(1 + γ²)`; normalizing brings it back to unit length. -/
theorem PureYaw.rotate_normalize {m : Dcm ℝ} (h : m.PureYaw) (γ : ℝ) :
    ((m.rotate ⟨0, 0, γ⟩).normalize).PureYaw := by
  obtain ⟨x, y, hunit, rfl⟩ := h
  set u := x + y * γ
  set v := y - x * γ
  have hn : u * u + v * v = 1 + γ * γ := by linear_combination (1 + γ * γ) * hunit
  have hpos : 0 < u * u + v * v := by
    rw [hn]
    exact add_pos_of_pos_of_nonneg one_pos (mul_self_nonneg γ)
  have hsq : Real.sqrt (u * u + v * v) * Real.sqrt (u * u + v * v) = u * u + v * v :=
    Real.mul_self_sqrt hpos.le
  refine ⟨_, _, ?_, by rw [rotate_planar, normalize_planar hpos]⟩
  calc u * (1 / Real.sqrt (u * u + v * v)) * (u * (1 / Real.sqrt (u * u + v * v))) +
        v * (1 / Real.sqrt (u * u + v * v)) * (v * (1 / Real.sqrt (u * u + v * v)))
      = (u * u + v * v) / (Real.sqrt (u * u + v * v) * Real.sqrt (u * u + v * v)) := by ring
    _ = 1 := by rw [hsq, div_self hpos.ne']

theorem PureYaw.c_eq {m : Dcm ℝ} (h : m.PureYaw) : m.c = ⟨0, 0, 1⟩ := by
  obtain ⟨x, y, -, rfl⟩ := h
  rfl

/-- The vertical row `(0, 0, 1)` reads as no roll: `atan2 0 1 = 0`. -/
theorem PureYaw.toEuler_roll {m : Dcm ℝ} (h : m.PureYaw) : m.toEuler.roll = 0 := by
  simp only [toEuler, h.c_eq, Scalar.atan2_real]
  exact Complex.arg_ofReal_of_nonneg zero_le_one

/-- The vertical row `(0, 0, 1)` reads as no pitch: its first entry is zero. -/
theorem PureYaw.toEuler_pitch {m : Dcm ℝ} (h : m.PureYaw) : m.toEuler.pitch = 0 := by
  simp [toEuler, h.c_eq, boundedAsin, Scalar.asin_real]
  norm_num

end Dcm

/-- The tide carries the boat horizontally only. -/
theorem Boat.tideVelocity_z {α : Type} [Scalar α] (cfg : EnvConfig α) (armed : Bool) :
    (Boat.tideVelocity cfg armed).z = 0 := by
  unfold Boat.tideVelocity
  split <;> rfl

/-- Disarmed under the torque policy, the heel model turns nothing and keeps no roll rate. -/
theorem HeelState.step_torque_disarmed {α : Type} [Scalar α] (h : HeelState α) (keel : Keel α)
    (heelForce roll dt : α) :
    h.step .torque keel heelForce roll dt false =
      (0, ⟨0, keel.angularAccel heelForce roll h.rollRate false⟩) := rfl

namespace Boat

/-! ### On the surface, in binary64 -/

/-- On the surface: no vertical velocity through the water or over ground, no depth, and no
heave pending in the swell, each a zero of either sign. -/
structure OnSurface (b : Boat Float) : Prop where
  velocityWater : (b.velocityWater.z == 0) = true
  velocity : (b.velocity.z == 0) = true
  position : (b.position.z == 0) = true
  heave : (b.wave.heave == 0) = true

theorem initial_onSurface : (initial : Boat Float).OnSurface :=
  ⟨by decide, by decide, by decide, by decide⟩

/-- One step whose swell does not heave the boat keeps it on the surface: the vertical
acceleration is the heave pending, a zero, and the time step is finite. -/
theorem step_onSurface {p : Params Float} {env : Environment Float} (c : Controls)
    {b : Boat Float} (hdt : p.timeStep.isFinite = true)
    (hgain : p.waveGains.heave.isFinite = true) (henv : NoHeave env) (hb : b.OnSurface) :
    (step p env c b).OnSurface := by
  have haccel : (step p env c b).last.accelEarth.z = b.wave.heave := rfl
  have hwater : ((step p env c b).velocityWater.z == 0) = true := by
    rw [step_velocityWater]
    show (b.velocityWater.z + (step p env c b).last.accelEarth.z * p.timeStep == 0) = true
    rw [haccel]
    exact Binary64.add_beq_zero hb.velocityWater (Binary64.mul_beq_zero hb.heave hdt)
  have hvel : ((step p env c b).velocity.z == 0) = true := by
    rw [step_velocity_eq]
    show ((step p env c b).velocityWater.z + (step p env c b).last.tideVelocity.z == 0) = true
    rw [step_last_tideVelocity, tideVelocity_z]
    exact Binary64.add_beq_zero hwater (by decide)
  refine ⟨hwater, hvel, ?_, ?_⟩
  · rw [step_position]
    exact Binary64.add_beq_zero hb.position (Binary64.mul_beq_zero hvel hdt)
  · -- the heave left pending cancels a zero vertical velocity, or is none
    rw [step_wave, WaveState.update_heave_of_noHeave _ _ _ _ _ _ henv]
    split
    · exact Binary64.mul_beq_zero (Binary64.neg_beq_zero hvel) hgain
    · decide

theorem drive_onSurface {p : Params Float} (hdt : p.timeStep.isFinite = true)
    (hgain : p.waveGains.heave.isFinite = true) {b : Boat Float} (hb : b.OnSurface)
    {inputs : List (Environment Float × Controls)} (henv : ∀ i ∈ inputs, NoHeave i.1) :
    (drive p b inputs).OnSurface :=
  drive_invariant (fun _ i hi hb' => step_onSurface i.2 hdt hgain hi hb') hb henv

/-! ### Upright, in exact arithmetic -/

/-- Upright: the attitude a rotation about the vertical alone, no disturbance pending from the
swell, and no roll rate in the heel model. -/
structure Upright (b : Boat ℝ) : Prop where
  dcm : b.dcm.PureYaw
  swell : b.wave.gyro = Vec3.zero
  rollRate : b.heel.rollRate = 0

theorem initial_upright : (initial : Boat ℝ).Upright :=
  ⟨Dcm.pureYaw_identity, rfl, by simp [initial, HeelState.rest]⟩

/-- Under the torque policy the attitude is only turned by the body rates, so a turn about the
vertical by a rate about the vertical stays one. -/
theorem integrateAttitude_pureYaw {p : Params ℝ} (htorque : p.heelPolicy = .torque) {m : Dcm ℝ}
    (hm : m.PureYaw) (r heelForce : ℝ) : (integrateAttitude p m ⟨0, 0, r⟩ heelForce).PureYaw := by
  have hrate : (⟨0, 0, r⟩ : Vec3 ℝ).scale p.timeStep = ⟨0, 0, r * p.timeStep⟩ := by
    ext <;> simp [Vec3.scale]
  simp only [integrateAttitude, htorque, hrate]
  exact hm.rotate_normalize _

/-- **One disarmed step under the torque policy keeps an upright boat upright.**  The heel model
gives no roll rate and the swell none, so the body turns about the vertical at the yaw rate
alone; the swell then levels a level boat, which leaves it nothing to correct. -/
theorem step_upright {p : Params ℝ} (htorque : p.heelPolicy = .torque) {env : Environment ℝ}
    (hoff : env.armed = false) (c : Controls) {b : Boat ℝ} (hb : b.Upright) :
    (step p env c b).Upright := by
  have hgyro : (step p env c b).gyro = ⟨0, 0, Scalar.radians (step p env c b).last.yawRate⟩ := by
    rw [step_gyro, htorque, hoff, HeelState.step_torque_disarmed, hb.swell]
    ext <;> simp [bodyRates]
  have hdcm : (step p env c b).dcm.PureYaw := by
    rw [step_dcm, hgyro]
    exact integrateAttitude_pureYaw htorque hb.dcm _ _
  refine ⟨hdcm, ?_, ?_⟩
  · rw [step_wave, hoff]
    ext <;> simp [WaveState.update, hdcm.toEuler_roll, hdcm.toEuler_pitch, Vec3.scale]
  · rw [step_heel, htorque, hoff, HeelState.step_torque_disarmed]
    exact Scalar.zero_real

theorem drive_upright {p : Params ℝ} (htorque : p.heelPolicy = .torque) {b : Boat ℝ}
    (hb : b.Upright) {inputs : List (Environment ℝ × Controls)}
    (hoff : ∀ i ∈ inputs, i.1.armed = false) : (drive p b inputs).Upright :=
  drive_invariant (fun _ i hi hb' => step_upright htorque hi i.2 hb') hb hoff

/-! ### Level, in binary64 -/

/-- Level in binary64: a level attitude (`Dcm.Level`), no disturbance pending from the swell,
each entry a zero of either sign, and no roll rate in the heel model. -/
structure Level (b : Boat Float) : Prop where
  dcm : b.dcm.Level
  swell_x : (b.wave.gyro.x == 0) = true
  swell_y : (b.wave.gyro.y == 0) = true
  swell_z : (b.wave.gyro.z == 0) = true
  rollRate : b.heel.rollRate = 0

theorem initial_level : (initial : Boat Float).Level :=
  ⟨Dcm.level_identity, by decide, by decide, by decide, rfl⟩

/-- Disarmed, the swell only levels the boat: its disturbance is the roll and pitch turned
back, times the angle gain. -/
theorem WaveState.update_gyro_disarmed {α : Type} [Scalar α] (w : WaveState α)
    (gains : WaveGains α) (dt : α) (s : WaveSettings α) (att : Euler α) (velocity : Vec3 α) :
    (w.update gains dt s false att velocity).gyro =
      (⟨-att.roll, -att.pitch, 0⟩ : Vec3 α).scale gains.angle := rfl

/-- **One disarmed step under the torque policy keeps a level boat level**, in binary64, when
its attitude before and after is finite.  The heel model gives no roll rate and the swell only
zeros, so the body turns by a rate about the vertical alone (`Dcm.Level.rotate_normalize`);
the level attitude then reads as no roll and no pitch, and the swell is left only zeros. -/
theorem step_level {p : Params Float} (htorque : p.heelPolicy = .torque)
    (hdt : p.timeStep.isFinite = true) (hgain : p.waveGains.angle.isFinite = true)
    {env : Environment Float} (hoff : env.armed = false) (c : Controls) {b : Boat Float}
    (hb : b.Level) (hfin : b.dcm.isFinite = true)
    (hfin' : (step p env c b).dcm.isFinite = true) : (step p env c b).Level := by
  have hgyro : (step p env c b).gyro =
      bodyRates 0 (step p env c b).last.yawRate b.wave.gyro := by
    rw [step_gyro, htorque, hoff, HeelState.step_torque_disarmed]
  -- the body rate scaled by the time step: a zero about each horizontal axis
  have hgx : (((step p env c b).gyro.scale p.timeStep).x == 0) = true := by
    rw [hgyro]
    exact mul_beq_zero (add_beq_zero zero_beq_zero hb.swell_x) hdt
  have hgy : (((step p env c b).gyro.scale p.timeStep).y == 0) = true := by
    rw [hgyro]
    exact mul_beq_zero (add_beq_zero zero_beq_zero hb.swell_y) hdt
  have hdcm : (step p env c b).dcm.Level := by
    rw [step_dcm] at hfin' ⊢
    simp only [integrateAttitude, htorque] at hfin' ⊢
    exact hb.dcm.rotate_normalize hfin hgx hgy hfin'
  have hwave : (step p env c b).wave.gyro =
      (⟨-(step p env c b).dcm.toEuler.roll, -(step p env c b).dcm.toEuler.pitch, 0⟩ :
        Vec3 Float).scale p.waveGains.angle := by
    rw [step_wave, hoff, WaveState.update_gyro_disarmed]
  refine ⟨hdcm, ?_, ?_, ?_, ?_⟩
  · rw [hwave]
    exact mul_beq_zero (neg_beq_zero hdcm.roll_beq_zero) hgain
  · rw [hwave]
    exact mul_beq_zero (neg_beq_zero hdcm.pitch_beq_zero) hgain
  · rw [hwave]
    exact mul_beq_zero zero_beq_zero hgain
  · rw [step_heel, htorque, hoff, HeelState.step_torque_disarmed]

/-- Disarmed steps under the torque policy keep a level boat level through a whole run, in
binary64, as long as its attitude stays finite. -/
theorem drive_level {p : Params Float} (htorque : p.heelPolicy = .torque)
    (hdt : p.timeStep.isFinite = true) (hgain : p.waveGains.angle.isFinite = true)
    {b : Boat Float} (hb : b.Level) {inputs : List (Environment Float × Controls)}
    (hoff : ∀ i ∈ inputs, i.1.armed = false)
    (hfin : ∀ k ≤ inputs.length, (drive p b (inputs.take k)).dcm.isFinite = true) :
    (drive p b inputs).Level := by
  induction inputs generalizing b with
  | nil => exact hb
  | cons i rest ih =>
    -- the first step keeps the boat level, and the rest of the run starts from there
    have hstep : (step p i.1 i.2 b).Level :=
      step_level htorque hdt hgain (hoff i List.mem_cons_self) i.2 hb (hfin 0 (Nat.zero_le _))
        (hfin 1 (by simp))
    exact ih hstep (fun j hj => hoff j (List.mem_cons_of_mem _ hj))
      (fun k hk => hfin (k + 1) (by simp only [List.length_cons]; omega))

/-- **On the surface, and upright.**  In binary64, with a finite time step and heave gain, a
boat on the surface (the boat a new simulation starts from is one, `initial_onSurface`) stays
there through any sequence of steps whose swell never heaves it: no vertical velocity through
the water or over ground, no depth and no heave pending, each a zero of either sign.  Under the
torque heel policy, with a finite angle gain, a level boat (`initial_level`) disarmed at every
step stays level as long as its attitude stays finite: no roll and no pitch, the vertical row
of its attitude two zeros and `+0` or a positive entry, and no roll rate. -/
theorem drive_stays_on_surface_and_upright (p : Params Float) (b : Boat Float)
    (inputs : List (Environment Float × Controls)) (hdt : p.timeStep.isFinite = true)
    (hheave : p.waveGains.heave.isFinite = true) (hb : b.OnSurface)
    (henv : ∀ i ∈ inputs, NoHeave i.1) :
    (drive p b inputs).OnSurface ∧
      (p.heelPolicy = .torque → p.waveGains.angle.isFinite = true → b.Level →
        (∀ i ∈ inputs, i.1.armed = false) →
        (∀ k ≤ inputs.length, (drive p b (inputs.take k)).dcm.isFinite = true) →
        ((drive p b inputs).dcm.toEuler.roll == 0) = true ∧
          ((drive p b inputs).dcm.toEuler.pitch == 0) = true ∧
          ((drive p b inputs).dcm.c.x == 0) = true ∧ ((drive p b inputs).dcm.c.y == 0) = true ∧
          ((drive p b inputs).dcm.c.z = 0 ∨ 0 < (drive p b inputs).dcm.c.z) ∧
          (drive p b inputs).heel.rollRate = 0) := by
  refine ⟨drive_onSurface hdt hheave hb henv, fun htorque hgain hlevel hoff hfin => ?_⟩
  have hrun := drive_level htorque hdt hgain hlevel hoff hfin
  have hcz : (drive p b inputs).dcm.c.z.isFinite = true := by
    have hlast := hfin inputs.length le_rfl
    rw [List.take_length] at hlast
    simp only [Dcm.isFinite, Vec3.isFinite, Bool.and_eq_true] at hlast
    exact hlast.2.2
  exact ⟨hrun.dcm.roll_beq_zero, hrun.dcm.pitch_beq_zero, hrun.dcm.c_x, hrun.dcm.c_y,
    hrun.dcm.c_z.eq_zero_or_pos hcz, hrun.rollRate⟩

/-- The stock boat under the torque heel policy. -/
def torqueParams : Params Float := { Params.default with heelPolicy := .torque }

/-- Disarmed in still air, trimmed and then with the rudder hard over. -/
def disarmedInputs : List (Environment Float × Controls) :=
  [(Environment.new EnvConfig.calm, Controls.ofList [1500, 1500, 1500, 1500]),
    (Environment.new EnvConfig.calm, Controls.ofList [2000, 1500, 1500, 1500])]

/-- The stock boat under the torque policy, disarmed and steered hard over, stays on the
surface and level. -/
theorem stock_boat_stays_on_surface_and_upright :
    (drive torqueParams initial disarmedInputs).OnSurface ∧
      ((drive torqueParams initial disarmedInputs).dcm.toEuler.roll == 0) = true ∧
      ((drive torqueParams initial disarmedInputs).dcm.toEuler.pitch == 0) = true ∧
      ((drive torqueParams initial disarmedInputs).dcm.c.x == 0) = true ∧
      ((drive torqueParams initial disarmedInputs).dcm.c.y == 0) = true ∧
      ((drive torqueParams initial disarmedInputs).dcm.c.z = 0 ∨
        0 < (drive torqueParams initial disarmedInputs).dcm.c.z) ∧
      (drive torqueParams initial disarmedInputs).heel.rollRate = 0 := by
  have hoff : ∀ i ∈ disarmedInputs, i.1.armed = false := by
    intro i hi
    simp only [disarmedInputs, List.mem_cons, List.not_mem_nil, or_false] at hi
    rcases hi with rfl | rfl <;> rfl
  have h := drive_stays_on_surface_and_upright torqueParams initial disarmedInputs
    (by decide +kernel) (by decide +kernel) initial_onSurface (by decide +kernel)
  exact ⟨h.1, h.2 rfl (by decide +kernel) initial_level hoff (by decide +kernel)⟩

/-- The stock boat with a motor, the torque heel policy and a turning circle of `1e-300` m,
which parameter validation accepts. -/
def spinParams : Params Float :=
  { Params.default with
    frame := Params.frameSailboatMotor, motor := true, heelPolicy := .torque
    steering := ⟨35, 1e-300⟩ }

/-- The rudder hard over and the throttle full ahead. -/
def hardOverAhead : Controls := Controls.ofList [2000, 1500, 2000, 1500]

/-- In binary64 a rotation about the vertical does not stay one.  The first step gets the boat
moving; on the second the tiny turning circle gives a yaw rate near `7e300` degrees a second, the
turned heading rows overflow, and the vertical row, their cross product scaled by the inverse of
its infinite length, is NaN: so is the roll. -/
theorem tight_turn_loses_attitude :
    spinParams.validate = .ok spinParams ∧ spinParams.heelPolicy = .torque ∧
      (∀ i ∈ List.replicate 2 (Environment.new EnvConfig.calm, hardOverAhead),
        (i.1 : Environment Float).armed = false) ∧
      (drive spinParams initial
        (List.replicate 2 (Environment.new EnvConfig.calm, hardOverAhead))).dcm.toEuler.roll.isNaN =
        true := by
  -- the turning circle is positive, so every check passes
  have hcheck : spinParams.check.isNone = true := by decide +kernel
  refine ⟨?_, rfl, ?_, by decide +kernel⟩
  · unfold Params.validate
    rw [Option.isNone_iff_eq_none.1 hcheck]
  · intro i hi
    obtain ⟨-, rfl⟩ := List.mem_replicate.1 hi
    rfl

end Boat

end SailSim
