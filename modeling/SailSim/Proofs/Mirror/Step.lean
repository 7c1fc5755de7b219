import Mathlib
import SailSim.Proofs.Mirror.Frame
import SailSim.Boat.Step

/-!
# One step of the mirrored boat

The mirror image of a boat sails the reflected course in the reflected environment: its
wind, tide and swell come from the negated directions, its rudder pulse is reflected about
the centre of `0..3000` (and on a wing sail the wing pulse too), and its state is the
reflection of the first boat's (`Boat.Mirrored`): the attitude `S M S`, the positions,
velocities and accelerations reflected, the rates of turn reflected as axial vectors, the
roll rate and the signed sail quantities negated.

Each part of the step commutes with the reflection in exact arithmetic: the steering
fraction and the yaw rate are odd, the sail forces are mirrored (`Rig.forces_mirror`), the
heel model and the swell are mirrored, and so are the stages of `Boat.step`. Two readers of
angles break the symmetry on their cuts, where a mirror-symmetric state would have to give
a force that is its own negation: the apparent wind dead astern (`±180°` off the bow) and
the boat upside down (roll `π`). Away from both, one step keeps the two boats mirrored
(`Boat.step_mirrored`).
-/

namespace SailSim

/-! ## The mirrored command -/

namespace Controls

/-- The command of the mirrored boat: the rudder pulse reflected about the centre of
`0..3000`, and on a wing sail the wing pulse too. -/
def mirror (kind : SailKind) (c : Controls) : Controls :=
  let c := c.set steeringChannel (3000 - c.get steeringChannel)
  match kind with
  | .mainsail => c
  | .wing => c.set wingChannel (3000 - c.get wingChannel)

/-- Every pulse lies in `0..3000`, where its reflection is again a pulse. -/
def InServoRange (c : Controls) : Prop := ∀ i, (c.get i).toNat ≤ 3000

theorem toNat_reflect (x : UInt16) (h : x.toNat ≤ 3000) : (3000 - x).toNat = 3000 - x.toNat := by
  rw [UInt16.toNat_sub_of_le]
  · rfl
  · rw [UInt16.le_iff_toNat_le]
    simpa using h

theorem mirror_steering (kind : SailKind) (c : Controls) :
    (c.mirror kind).get steeringChannel = 3000 - c.get steeringChannel := by
  cases kind <;> simp [mirror, steeringChannel, wingChannel]

theorem mirror_wing (c : Controls) : (c.mirror .wing).get wingChannel = 3000 - c.get wingChannel := by
  simp [mirror, steeringChannel, wingChannel]

theorem mirror_of_ne (kind : SailKind) (c : Controls) {i : Fin 16} (h₀ : i ≠ steeringChannel)
    (h₄ : i ≠ wingChannel) : (c.mirror kind).get i = c.get i := by
  cases kind <;> simp [mirror, Ne.symm h₀, Ne.symm h₄]

theorem mirror_mainsail (kind : SailKind) (c : Controls) :
    (c.mirror kind).get mainsailChannel = c.get mainsailChannel :=
  mirror_of_ne kind c (by decide) (by decide)

theorem mirror_throttle (kind : SailKind) (c : Controls) :
    (c.mirror kind).get throttleChannel = c.get throttleChannel :=
  mirror_of_ne kind c (by decide) (by decide)

theorem mirror_mainsail_wing (c : Controls) :
    (c.mirror .mainsail).get wingChannel = c.get wingChannel := by
  simp [mirror, steeringChannel, wingChannel]

end Controls

/-! ## Steering -/

namespace Kinematics

theorem fraction_reflect (n : ℕ) (h : n ≤ 3000) :
    (fraction (3000 - n) : ℝ) = -fraction n := by
  simp only [fraction, Scalar.ofNat_real]
  push_cast [h]
  ring_nf

theorem nearZero_neg (v : ℝ) : nearZero (-v) = nearZero v := by
  simp [nearZero, Scalar.abs_real]

variable (k : Kinematics ℝ) (s v : ℝ)

theorem turnCircle_neg : k.turnCircle (-s) = -k.turnCircle s := by
  unfold turnCircle
  rw [nearZero_neg, neg_mul, Scalar.radians_neg, Scalar.sin_neg, div_neg]
  split <;> simp

theorem yawRate_neg : k.yawRate (-s) v = -k.yawRate s v := by
  simp only [yawRate, nearZero_neg, turnCircle_neg]
  split <;> simp [mul_neg, neg_div, div_neg]

end Kinematics

/-! ## The sail -/

/-- The sail angle of the mirrored boat: a sheet sets the same limit to the boom on either
tack, a wing is set to the negated angle. -/
def SailKind.mirrorAngle {α : Type} [Scalar α] (kind : SailKind) (angle : α) : α :=
  match kind with
  | .mainsail => angle
  | .wing => -angle

namespace SailForces

variable {α : Type} [Scalar α]

/-- The sail forces of the mirrored boat: the signed angles, the lift and the heel force
negated, the drag and the forward force kept. -/
def mirror (kind : SailKind) (f : SailForces α) : SailForces α :=
  ⟨kind.mirrorAngle f.sailAngle, -f.aoa, -f.lift, f.drag, f.forward, -f.heel⟩

@[simp] theorem mirror_forward (kind : SailKind) (f : SailForces α) :
    (f.mirror kind).forward = f.forward := rfl

@[simp] theorem mirror_heel (kind : SailKind) (f : SailForces α) :
    (f.mirror kind).heel = -f.heel := rfl

end SailForces

namespace Curve

/-- A curve is read at the absolute value of the angle, so it is even on `[-180, 180]`. -/
theorem lookup_neg (t : Curve ℝ) {x : ℝ} (hx : -180 ≤ x ∧ x ≤ 180) : t.lookup (-x) = t.lookup x := by
  have ha : Scalar.abs (wrapDeg180 (-x)) = Scalar.abs (wrapDeg180 x) := by
    rw [wrapDeg180_of_mem x hx, wrapDeg180_of_mem (-x) ⟨by linarith, by linarith⟩,
      Scalar.abs_real, Scalar.abs_real, abs_neg]
  simp only [lookup, ha]

/-- No lift head to wind. -/
theorem lift_lookup_zero : (lift : Curve ℝ).lookup 0 = 0 := by
  simp [lookup, lift, ofPairs, wrapDeg180_of_mem, Scalar.abs_real]

end Curve

namespace Rig

variable (r : Rig ℝ)

theorem sailAngle_mirror (c : Controls) (hc : c.InServoRange) :
    r.sailAngle (c.mirror r.kind) = r.kind.mirrorAngle (r.sailAngle c) := by
  unfold sailAngle
  cases hk : r.kind with
  | mainsail => simp only [SailKind.mirrorAngle, Controls.mirror_mainsail]
  | wing =>
    have hpwm : (((c.mirror .wing).get Controls.wingChannel).toNat : ℝ) - 1500 =
        -((c.get Controls.wingChannel).toNat - 1500) := by
      rw [Controls.mirror_wing, Controls.toNat_reflect _ (hc _)]
      push_cast [hc Controls.wingChannel]
      ring
    simp only [SailKind.mirrorAngle, Scalar.ofNat_real, hpwm, neg_div, neg_mul]
    exact Scalar.clamp_neg _ 90 (by norm_num)

/-- A sheet only eases the boom to one side of the centreline. -/
theorem sailAngle_nonneg (c : Controls) (h : r.kind = .mainsail) : 0 ≤ r.sailAngle c := by
  simp only [sailAngle, h, Scalar.clamp, Scalar.max_real, Scalar.min_real, Scalar.zero_real]
  exact le_min (le_max_right _ _) (by norm_num)

theorem sailAngle_abs_le (c : Controls) : |r.sailAngle c| ≤ 90 := by
  unfold sailAngle
  split
  · exact Scalar.abs_clamp_le _ (by simp) (by simp)
  · exact Scalar.abs_clamp_le _ (by simp) (by simp)

theorem angleOfAttack_mirror (a s : ℝ) (hs : r.kind = .mainsail → 0 ≤ s) :
    r.angleOfAttack (-a) (r.kind.mirrorAngle s) = -r.angleOfAttack a s := by
  unfold angleOfAttack SailKind.mirrorAngle
  cases hk : r.kind with
  | wing => ring
  | mainsail =>
    simp only [Scalar.abs_real, Scalar.max_real, Scalar.zero_real, abs_neg]
    by_cases ha : a = 0
    · have hmax : max (|a| - s) 0 = 0 := by
        rw [ha, abs_zero, zero_sub]
        exact max_eq_right (neg_nonpos.2 (hs hk))
      rw [hmax, zero_mul, zero_mul, neg_zero]
    · rw [Scalar.signum_neg_of_ne a ha, mul_neg]

theorem angleOfAttack_abs_lt (c : Controls) {a : ℝ} (ha : |a| ≤ 180) :
    |r.angleOfAttack a (r.sailAngle c)| < 540 := by
  have hs := abs_le.1 (r.sailAngle_abs_le c)
  unfold angleOfAttack
  cases hk : r.kind with
  | wing =>
    rw [abs_lt]
    obtain ⟨ha₁, ha₂⟩ := abs_le.1 ha
    constructor <;> linarith
  | mainsail =>
    have hs₀ := r.sailAngle_nonneg c hk
    have hsig : |Scalar.signum a| = 1 := by
      unfold Scalar.signum
      split <;> simp
    rw [abs_mul, hsig, mul_one, Scalar.max_real, Scalar.abs_real, Scalar.zero_real,
      abs_of_nonneg (le_max_right _ _)]
    have : max (|a| - r.sailAngle c) 0 ≤ 180 := max_le (by linarith) (by norm_num)
    linarith

/-- Lift changes sign with the angle of attack, drag does not. -/
theorem liftDrag_neg (w aoa : ℝ) (h : |aoa| < 540) :
    r.liftDrag w (-aoa) = ⟨-(r.liftDrag w aoa).lift, (r.liftDrag w aoa).drag⟩ := by
  obtain ⟨hlo, hhi⟩ := Curve.wrapDeg180_mem aoa
  simp only [liftDrag, Curve.wrapDeg180_neg aoa h, Curve.lookup_neg _ ⟨hlo, hhi⟩,
    LiftDrag.mk.injEq, and_true]
  rcases lt_trichotomy (Curve.wrapDeg180 aoa) 0 with hx | hx | hx
  · simp [hx, not_lt.2 (neg_nonneg.2 hx.le)]
  · simp [hx, Curve.lift_lookup_zero]
  · simp [hx, not_lt.2 hx.le]

theorem resolve_mirror (f : LiftDrag ℝ) (a : ℝ) :
    resolve ⟨-f.lift, f.drag⟩ (-a) = ((resolve f a).1, -(resolve f a).2) := by
  simp only [resolve, neg_mul, neg_div, Scalar.sin_neg, Scalar.cos_neg, Prod.mk.injEq]
  constructor <;> ring

/-- The sail of the mirrored boat, under the mirrored command and at the negated apparent wind
angle, gives the mirrored forces. -/
theorem forces_mirror (c : Controls) (hc : c.InServoRange) {a : ℝ} (ha : |a| ≤ 180) (w : ℝ) :
    r.forces (c.mirror r.kind) (-a) w = (r.forces c a w).mirror r.kind := by
  simp only [forces, r.sailAngle_mirror c hc, r.angleOfAttack_mirror _ _ (r.sailAngle_nonneg c),
    r.liftDrag_neg w _ (r.angleOfAttack_abs_lt c ha), resolve_mirror]
  generalize resolve (r.liftDrag w (r.angleOfAttack a (r.sailAngle c))) a = q
  obtain ⟨fwd, heel⟩ := q
  rfl

end Rig

/-! ## Heel -/

theorem heelAngle_neg (heelForce gain : ℝ) : heelAngle (-heelForce) gain = -heelAngle heelForce gain := by
  unfold heelAngle
  rw [neg_mul, Scalar.min_max_neg _ 45 (by norm_num)]
  ring

namespace HeelState

variable {α : Type} [Scalar α]

/-- The heel state of the mirrored boat: it rolls the other way. -/
def mirror (h : HeelState α) : HeelState α := ⟨-h.rollRate, -h.accel⟩

/-- The keel's torque balance is odd in the heel force, the roll and the roll rate; the roll
enters only through its sine and cosine. -/
theorem angularAccel_mirror (k : Keel ℝ) {roll roll' : ℝ} (hs : Scalar.sin roll' = -Scalar.sin roll)
    (hc : Scalar.cos roll' = Scalar.cos roll) (heelForce rate : ℝ) (armed : Bool) :
    k.angularAccel (-heelForce) roll' (-rate) armed = -k.angularAccel heelForce roll rate armed := by
  simp only [Keel.angularAccel]
  split
  · simp
  · split
    · simp
    · simp only [hs, hc]
      ring

/-- The mirrored boat's heel model rolls it the other way. -/
theorem step_mirror (h : HeelState ℝ) (policy : HeelPolicy) (keel : Keel ℝ) (heelForce : ℝ)
    (m : Dcm ℝ) (dt : ℝ) (armed : Bool) :
    h.mirror.step policy keel (-heelForce) m.mirror.toEuler.roll dt armed =
      (-(h.step policy keel heelForce m.toEuler.roll dt armed).1,
        (h.step policy keel heelForce m.toEuler.roll dt armed).2.mirror) := by
  have hacc := angularAccel_mirror keel (Dcm.sin_roll_mirror m) (Dcm.cos_roll_mirror m) heelForce
    h.rollRate armed
  cases policy with
  | direct => simp [step]
  | torque =>
    simp only [step, mirror, hacc]
    -- the roll rate integrates while armed and is held at zero otherwise
    split
    · simp [add_comm]
    · simp

end HeelState

/-! ## The swell -/

namespace WaveSettings

variable {α : Type} [Scalar α]

/-- The swell of the mirrored environment travels toward the negated heading. -/
def mirror (s : WaveSettings α) : WaveSettings α := { s with direction := -s.direction }

@[simp] theorem mirror_enabled (s : WaveSettings α) : s.mirror.enabled = s.enabled := rfl

@[simp] theorem mirror_direction (s : WaveSettings α) : s.mirror.direction = -s.direction := rfl

end WaveSettings

namespace WaveState

variable {α : Type} [Scalar α]

/-- The swell state of the mirrored boat: the same phase, heave and slope, the disturbance
of the body rates reflected as an axial vector. -/
def mirror (w : WaveState α) : WaveState α := { w with gyro := w.gyro.mirrorAxial }

@[simp] theorem mirror_phase (w : WaveState α) : w.mirror.phase = w.phase := rfl
@[simp] theorem mirror_gyro (w : WaveState α) : w.mirror.gyro = w.gyro.mirrorAxial := rfl
@[simp] theorem mirror_heave (w : WaveState α) : w.mirror.heave = w.heave := rfl

/-- The angle between the swell's heading and the boat's changes sign with both. -/
theorem sin_sub_mirror (h : ℝ) {y y' : ℝ} (hs : Scalar.sin y' = -Scalar.sin y)
    (hc : Scalar.cos y' = Scalar.cos y) : Scalar.sin (-h - y') = -Scalar.sin (h - y) := by
  simp only [Scalar.sin_real, Scalar.cos_real] at hs hc ⊢
  rw [Real.sin_sub, Real.sin_sub, hs, hc, Real.sin_neg, Real.cos_neg]
  ring

theorem cos_sub_mirror (h : ℝ) {y y' : ℝ} (hs : Scalar.sin y' = -Scalar.sin y)
    (hc : Scalar.cos y' = Scalar.cos y) : Scalar.cos (-h - y') = Scalar.cos (h - y) := by
  simp only [Scalar.sin_real, Scalar.cos_real] at hs hc ⊢
  rw [Real.cos_sub, Real.cos_sub, hs, hc, Real.sin_neg, Real.cos_neg]
  ring

/-- The swell under the mirrored boat: the boat's speed along the swell and so the phase and
slope are the same, and the disturbance of the body rates is mirrored. The roll enters the
disturbance itself, so the boat must not be upside down on the cut of `atan2`. -/
theorem update_mirror (w : WaveState ℝ) (gains : WaveGains ℝ) (dt : ℝ) (s : WaveSettings ℝ)
    (armed : Bool) (m : Dcm ℝ) (v : Vec3 ℝ) (h : m.toEuler.roll ≠ Real.pi) :
    w.mirror.update gains dt s.mirror armed m.mirror.toEuler v.mirror =
      (w.update gains dt s armed m.toEuler v).mirror := by
  have hroll := Dcm.roll_mirror m h
  have hsin := fun d => sin_sub_mirror d (Dcm.sin_yaw_mirror m) (Dcm.cos_yaw_mirror m)
  have hcos := fun d => cos_sub_mirror d (Dcm.sin_yaw_mirror m) (Dcm.cos_yaw_mirror m)
  simp only [update, WaveSettings.mirror_enabled]
  by_cases hcalm : (!armed || !s.enabled) = true
  · -- no swell: the disturbance only levels the boat
    simp only [hcalm, ↓reduceIte, mirror, hroll, Dcm.toEuler_pitch_mirror, Vec3.mirror_z, neg_neg,
      WaveState.mk.injEq, true_and, and_true]
    ext <;> simp [Vec3.scale]
  · -- the swell: its heading is negated, the boat's speed along it is kept
    simp only [hcalm, Bool.false_eq_true, ↓reduceIte, WaveSettings.mirror, neg_mul, neg_div,
      mul_neg, neg_neg, Scalar.sin_neg, Scalar.cos_neg, Vec3.mirror_x, Vec3.mirror_y, Vec3.mirror_z, hsin, hcos, hroll,
      Dcm.toEuler_pitch_mirror, mirror, WaveState.mk.injEq, true_and, and_true]
    ext
    · simp only [Vec3.mirrorAxial_x]
      ring
    · rfl
    · simp

end WaveState

/-! ## The environment -/

namespace EnvConfig

variable {α : Type} [Scalar α]

/-- The mirrored environment: wind, tide and swell come from the negated directions; the
speeds, the gust, the swell's mode, amplitude, length and speed and the armed flag are kept. -/
def mirror (c : EnvConfig α) : EnvConfig α :=
  { c with
    windDirection := -c.windDirection
    tideDirection := -c.tideDirection
    waves := c.waves.mirror }

@[simp] theorem mirror_waves (c : EnvConfig α) : c.mirror.waves = c.waves.mirror := rfl

theorem windAt_mirror (c : EnvConfig ℝ) (t : ℝ) : c.mirror.windAt t = (c.windAt t).mirror := by
  simp only [windAt, mirror, neg_mul, neg_div, Scalar.sin_neg, Scalar.cos_neg]
  ext <;> simp

end EnvConfig

namespace Environment

variable {α : Type} [Scalar α]

/-- The mirrored environment with its wind reflected. -/
def mirror (e : Environment α) : Environment α := ⟨e.config.mirror, e.wind.mirror, e.armed⟩

@[simp] theorem mirror_config (e : Environment α) : e.mirror.config = e.config.mirror := rfl
@[simp] theorem mirror_wind (e : Environment α) : e.mirror.wind = e.wind.mirror := rfl
@[simp] theorem mirror_armed (e : Environment α) : e.mirror.armed = e.armed := rfl

theorem new_mirror (c : EnvConfig ℝ) : Environment.new c.mirror = (Environment.new c).mirror := by
  simp only [Environment.new, mirror, EnvConfig.windAt_mirror]
  rfl

theorem updateWind_mirror (e : Environment ℝ) (t : ℝ) :
    e.mirror.updateWind t = (e.updateWind t).mirror := by
  simp only [updateWind, mirror, EnvConfig.windAt_mirror]

theorem setArmed_mirror (e : Environment α) (armed : Bool) :
    e.mirror.setArmed armed = (e.setArmed armed).mirror := rfl

end Environment

/-! ## The stages of a step -/

namespace Boat

theorem tideVelocity_mirror (c : EnvConfig ℝ) (armed : Bool) :
    tideVelocity c.mirror armed = (tideVelocity c armed).mirror := by
  simp only [tideVelocity, EnvConfig.mirror, Scalar.radians_neg, Scalar.sin_neg, Scalar.cos_neg]
  split
  · ext <;> simp
  · ext <;> simp [Vec3.zero]

theorem windAngleOff_abs_le (v : Vec3 ℝ) (yaw : ℝ) : |windAngleOff v yaw| ≤ 180 :=
  abs_le.2 (Curve.wrapDeg180_mem _)

/-- The apparent wind of the mirrored boat meets it at the negated angle, unless it comes from
dead astern: there `+180` and `-180` are one direction, and the wrap keeps the first boat's. -/
theorem windAngleOff_mirror (v : Vec3 ℝ) (m : Dcm ℝ) (h₁ : windAngleOff v m.toEuler.yaw ≠ 180)
    (h₂ : windAngleOff v m.toEuler.yaw ≠ -180) :
    windAngleOff v.mirror m.mirror.toEuler.yaw = -windAngleOff v m.toEuler.yaw := by
  obtain ⟨k₁, hk₁⟩ := Scalar.degrees_atan2_neg v.x v.y
  obtain ⟨k₂, hk₂⟩ := Scalar.degrees_atan2_neg m.a.x m.b.x
  have hyaw : m.toEuler.yaw = Scalar.atan2 m.b.x m.a.x := rfl
  have hyaw' : m.mirror.toEuler.yaw = Scalar.atan2 (-m.b.x) m.a.x := rfl
  refine Curve.wrapDeg180_eq_neg ⟨k₁ - k₂, ?_⟩ h₁ h₂
  rw [hyaw', hyaw, Vec3.mirror_x, Vec3.mirror_y, hk₁, hk₂]
  push_cast
  ring

theorem waterSpeed_mirror (m : Dcm ℝ) (v : Vec3 ℝ) : waterSpeed m.mirror v.mirror = waterSpeed m v := by
  simp [waterSpeed, Dcm.transpose_mirror, Dcm.mulVec_mirror]

theorem bodyRates_mirror (rollRate yawRate : ℝ) (swell : Vec3 ℝ) :
    bodyRates (-rollRate) (-yawRate) swell.mirrorAxial = (bodyRates rollRate yawRate swell).mirrorAxial := by
  unfold bodyRates
  rw [Scalar.radians_neg]
  ext <;> simp [add_comm]

theorem throttleForce_mirror (p : Params ℝ) (kind : SailKind) (c : Controls) :
    throttleForce p (c.mirror kind) = throttleForce p c := by
  simp [throttleForce, Controls.mirror_throttle]

theorem headingAccel_mirror (p : Params ℝ) (throttle forward hullDrag yawRate speed : ℝ) :
    headingAccel p throttle forward hullDrag (-yawRate) speed =
      (headingAccel p throttle forward hullDrag yawRate speed).mirror := by
  unfold headingAccel
  rw [Scalar.radians_neg]
  ext <;> simp

theorem earthAccel_mirror (m : Dcm ℝ) (accel : Vec3 ℝ) (heave : ℝ) :
    earthAccel m.mirror accel.mirror heave = (earthAccel m accel heave).mirror := by
  have hheading := Dcm.ofEuler_mirror_yaw m 0 0
  rw [neg_zero] at hheading
  simp only [earthAccel, Scalar.zero_real, hheading, Dcm.mulVec_mirror]
  rfl

/-- Turning the mirrored attitude by the mirrored rates, and under the direct policy setting
the roll from the negated heel force, gives the mirrored attitude. -/
theorem integrateAttitude_mirror (p : Params ℝ) (m : Dcm ℝ) (gyro : Vec3 ℝ) (heelForce : ℝ) :
    integrateAttitude p m.mirror gyro.mirrorAxial (-heelForce) =
      (integrateAttitude p m gyro heelForce).mirror := by
  unfold integrateAttitude
  rw [Vec3.mirrorAxial_scale, Dcm.rotate_mirror, Dcm.normalize_mirror]
  cases p.heelPolicy with
  | direct =>
    simp only [heelAngle_neg, Dcm.toEuler_pitch_mirror, Dcm.ofEuler_mirror_yaw,
      Dcm.normalize_mirror]
  | torque => rfl

end Boat

theorem Vec3.mirror_add_vertical (v : Vec3 ℝ) (z : ℝ) :
    v.mirror + ⟨0, 0, z⟩ = (v + ⟨0, 0, z⟩).mirror := by
  ext <;> simp

/-! ## The mirrored boat -/

namespace StepInfo

variable {α : Type} [Scalar α]

/-- The intermediate values of the mirrored boat's step: the steering, the apparent wind
angle, the yaw rate and the sail's signed quantities negated, the accelerations and the tide
reflected. -/
def mirror (kind : SailKind) (i : StepInfo α) : StepInfo α :=
  ⟨-i.steering, i.windSpeed, -i.windAngle, i.sail.mirror kind, i.speed, -i.yawRate, i.hullDrag,
    i.throttle, i.accelEarth.mirror, i.tideVelocity.mirror⟩

end StepInfo

namespace Boat

/-- `b'` is the mirror image of `b` on a boat with sail `kind`: the attitude `S M S`, the
positions, velocities and accelerations reflected, the body rates reflected as an axial
vector, the swell, the heel and the last step mirrored. The compass reading follows the
earth's field, not the boat, and is not compared. -/
structure Mirrored (kind : SailKind) (b b' : Boat ℝ) : Prop where
  dcm : b'.dcm = b.dcm.mirror
  gyro : b'.gyro = b.gyro.mirrorAxial
  accelBody : b'.accelBody = b.accelBody.mirror
  velocityWater : b'.velocityWater = b.velocityWater.mirror
  velocity : b'.velocity = b.velocity.mirror
  position : b'.position = b.position.mirror
  airspeed : b'.airspeed = b.airspeed
  rpm : b'.rpm = b.rpm
  wave : b'.wave = b.wave.mirror
  heel : b'.heel = b.heel.mirror
  last : b'.last = b.last.mirror kind

/-- The boat after a step stays off both cuts of `atan2`: its apparent wind did not come from
dead astern, and it is not upside down. -/
def ClearOfCuts (b : Boat ℝ) : Prop :=
  b.last.windAngle ≠ 180 ∧ b.last.windAngle ≠ -180 ∧ b.dcm.toEuler.roll ≠ Real.pi

/-- One step keeps the mirror image: the mirrored boat in the mirrored environment under the
mirrored command steps to the mirror image of the first boat's step, as long as that step
stays off the cuts. -/
theorem step_mirrored {p : Params ℝ} {env : Environment ℝ} {c : Controls} {b b' : Boat ℝ}
    (hb : b.Mirrored p.rig.kind b') (hc : c.InServoRange) (hclear : (step p env c b).ClearOfCuts) :
    (step p env c b).Mirrored p.rig.kind (step p env.mirror (c.mirror p.rig.kind) b') := by
  obtain ⟨hwind₁, hwind₂, hroll⟩ := hclear
  simp only [step] at hwind₁ hwind₂ hroll
  obtain ⟨hdcm, -, -, hvw, hv, hpos, -, -, hwave, hheel, -⟩ := hb
  have hsteer : Kinematics.fraction ((c.mirror p.rig.kind).get Controls.steeringChannel).toNat =
      -(Kinematics.fraction (c.get Controls.steeringChannel).toNat : ℝ) := by
    rw [Controls.mirror_steering, Controls.toNat_reflect _ (hc _)]
    exact Kinematics.fraction_reflect _ (hc _)
  constructor <;>
  simp only [step, hdcm, hvw, hv, hpos, hwave, hheel, Environment.mirror_wind,
    Environment.mirror_armed, Environment.mirror_config, EnvConfig.mirror_waves, Vec3.mirror_sub,
    windAngleOff_mirror _ _ hwind₁ hwind₂,
    Rig.forces_mirror _ c hc (windAngleOff_abs_le (b.velocity - env.wind) b.dcm.toEuler.yaw),
    SailForces.mirror_heel, SailForces.mirror_forward, hsteer, waterSpeed_mirror,
    Kinematics.yawRate_neg, HeelState.step_mirror, WaveState.mirror_gyro, WaveState.mirror_heave,
    bodyRates_mirror, integrateAttitude_mirror, throttleForce_mirror, headingAccel_mirror,
    earthAccel_mirror, Scalar.zero_real, Vec3.mirror_add_vertical, Dcm.transpose_mirror,
    Dcm.mulVec_mirror, tideVelocity_mirror, Vec3.mirror_scale, Vec3.mirror_add,
    WaveState.update_mirror _ _ _ _ _ _ _ hroll, Vec3.horizontalLength_mirror, StepInfo.mirror]

end Boat

end SailSim
