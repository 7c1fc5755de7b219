import Mathlib
import SailSim.Proofs.Mirror.Step
import SailSim.Proofs.Rotation
import SailSim.Sim.Basic

/-!
# The mirrored simulation

Two simulations built from the same parameters, one in an environment whose wind, tide and
swell come from the negated directions, stay mirror images of each other over any run in
which both get the same armed flag at every step and the second the mirrored command of the
first (`Sim.mirror_image_sails_mirrored_course`), as long as the first never meets the
apparent wind from dead astern nor rolls upside down. The compass and the position fix follow
the earth's field and the geodetic position, which have no mirror, and are not compared.

At dead astern the two boats stop being mirror images: a boat that drifts with the tide through
still air meets its apparent wind at `180°` off the bow, which is also its mirror image's
angle, so the two boats take the same step, and the sail's heel force, which the mirror would
negate, is not zero; after two steps both roll to the same side
(`Sim.mirror_fails_dead_astern`).
-/

namespace SailSim

/-- Replacing the compass readings keeps a mirror image. -/
theorem Boat.Mirrored.withMagBody {kind : SailKind} {b b' : Boat ℝ} (h : b.Mirrored kind b')
    (m m' : Vec3 ℝ) : ({ b with magBody := m } : Boat ℝ).Mirrored kind { b' with magBody := m' } :=
  ⟨h.dcm, h.gyro, h.accelBody, h.velocityWater, h.velocity, h.position, h.airspeed, h.rpm,
    h.wave, h.heel, h.last⟩

namespace Sim

variable {α : Type} [Scalar α]

/-- The simulation driven through a list of steps, each setting the armed flag and then
applying a servo command. -/
def run (s : Sim α) : List (Bool × Controls) → Sim α
  | [] => s
  | (armed, c) :: rest => ((s.setArmed armed).update c).run rest

/-- The steps of the mirrored boat: the same armed flags and the mirrored commands. -/
def mirrorInputs (kind : SailKind) (inputs : List (Bool × Controls)) : List (Bool × Controls) :=
  inputs.map fun i => (i.1, i.2.mirror kind)

/-- Without a clock, a position fix or a compass, an update brings the wind to time zero and
steps the boat. -/
theorem update_bare {s : Sim α} (hclock : s.clock = none) (hfix : s.fix = none)
    (hcompass : s.compass = none) (c : Controls) :
    s.update c = { s with
      env := s.env.updateWind 0
      boat := Boat.step s.params (s.env.updateWind 0) c s.boat } := by
  obtain ⟨p, env, clock, fix, compass, b⟩ := s
  simp only at hclock hfix hcompass
  subst hclock hfix hcompass
  rfl

/-- `s'` is the mirror image of `s`: the same parameters and clock, the mirrored environment
and the mirrored boat. -/
structure Mirrored (s s' : Sim ℝ) : Prop where
  params : s'.params = s.params
  env : s'.env = s.env.mirror
  clock : s'.clock = s.clock
  boat : s.boat.Mirrored s.params.rig.kind s'.boat

theorem seconds_eq_of_clock {s s' : Sim ℝ} (h : s'.clock = s.clock) : s'.seconds = s.seconds := by
  unfold seconds
  rw [h]

theorem Mirrored.setArmed {s s' : Sim ℝ} (h : s.Mirrored s') (armed : Bool) :
    (s.setArmed armed).Mirrored (s'.setArmed armed) :=
  ⟨h.params, by simp only [Sim.setArmed, h.env, Environment.setArmed_mirror], h.clock, h.boat⟩

/-- One update keeps the mirror image, as long as the first boat's step stays off the cuts. -/
theorem Mirrored.update {s s' : Sim ℝ} (h : s.Mirrored s') {c : Controls} (hc : c.InServoRange)
    (hclear : (s.update c).boat.ClearOfCuts) :
    (s.update c).Mirrored (s'.update (c.mirror s.params.rig.kind)) := by
  have hsec := seconds_eq_of_clock h.clock
  have henv : s'.env.updateWind s'.seconds = (s.env.updateWind s.seconds).mirror := by
    rw [h.env, hsec, Environment.updateWind_mirror]
  refine ⟨?_, ?_, ?_, ?_⟩
  · rw [update_params, update_params, h.params]
  · rw [update_env, update_env, henv]
  · rw [update_clock, update_clock, h.clock, h.params]
  · obtain ⟨m, hm⟩ := update_boat s c
    obtain ⟨m', hm'⟩ := update_boat s' (c.mirror s.params.rig.kind)
    rw [hm] at hclear ⊢
    rw [update_params, hm', h.params, henv]
    exact (Boat.step_mirrored h.boat hc hclear).withMagBody m m'

theorem run_params (s : Sim α) (inputs : List (Bool × Controls)) :
    (s.run inputs).params = s.params := by
  induction inputs generalizing s with
  | nil => rfl
  | cons i rest ih =>
    obtain ⟨armed, c⟩ := i
    rw [run, ih, update_params]
    rfl

/-- A whole run keeps the mirror image, as long as every step of the first boat stays off the
cuts. The induction is on the steps; each keeps the mirror image by `Mirrored.update`. -/
theorem Mirrored.run {s s' : Sim ℝ} (h : s.Mirrored s') (inputs : List (Bool × Controls))
    (hc : ∀ i ∈ inputs, i.2.InServoRange)
    (hclear : ∀ k < inputs.length, (s.run (inputs.take (k + 1))).boat.ClearOfCuts) :
    (s.run inputs).Mirrored (s'.run (mirrorInputs s.params.rig.kind inputs)) := by
  induction inputs generalizing s s' with
  | nil => exact h
  | cons i rest ih =>
    obtain ⟨armed, c⟩ := i
    have hstep : ((s.setArmed armed).update c).Mirrored
        ((s'.setArmed armed).update (c.mirror s.params.rig.kind)) :=
      (h.setArmed armed).update (hc _ List.mem_cons_self) (hclear 0 (by simp))
    have hkind : ((s.setArmed armed).update c).params.rig.kind = s.params.rig.kind := by
      rw [update_params]
      rfl
    have := ih hstep (fun j hj => hc j (List.mem_cons_of_mem _ hj))
      (fun k hk => hclear (k + 1) (by simp; omega))
    rw [hkind] at this
    exact this

/-- The boat at rest at home is its own mirror image. -/
theorem initial_mirrored (kind : SailKind) : (Boat.initial : Boat ℝ).Mirrored kind Boat.initial := by
  have hzero : (Vec3.zero : Vec3 ℝ) = Vec3.zero.mirror := by
    ext <;> simp [Vec3.zero]
  have hzeroAxial : (Vec3.zero : Vec3 ℝ) = Vec3.zero.mirrorAxial := by
    ext <;> simp [Vec3.zero]
  refine ⟨?_, hzeroAxial, hzero, hzero, hzero, hzero, rfl, rfl, ?_, ?_, ?_⟩
  · ext <;> simp [Boat.initial, Dcm.identity]
  · simp only [Boat.initial, WaveState.initial, WaveState.mirror, ← hzeroAxial]
  · simp [Boat.initial, HeelState.rest, HeelState.mirror]
  · cases kind <;>
    simp [Boat.initial, StepInfo.zero, StepInfo.mirror, SailForces.mirror, SailKind.mirrorAngle,
      ← hzero]

/-- A simulation is built exactly when its mirror image is, and the two are mirror images. -/
theorem new_mirrored {p : Params ℝ} {cfg : EnvConfig ℝ} {clock : Option Clock}
    {fix : Option (GeoFix ℝ)} {compass : Option (Compass ℝ)} {s : Sim ℝ}
    (hs : Sim.new p (some (Environment.new cfg)) clock fix compass = .ok s) :
    ∃ s', Sim.new p (some (Environment.new cfg.mirror)) clock fix compass = .ok s' ∧
      s.Mirrored s' ∧ s.params.rig.kind = p.rig.kind := by
  unfold Sim.new at hs ⊢
  cases hv : p.validate with
  | error e => simp [hv] at hs
  | ok p' =>
    have hp : p' = p := by
      unfold Params.validate at hv
      split at hv <;> simp_all
    simp only [hv, Environment.new_mirror] at hs ⊢
    subst hp
    refine ⟨_, rfl, ?_⟩
    simp only [bind, Except.bind, pure, Except.pure, Except.ok.injEq] at hs
    subst hs
    refine ⟨⟨rfl, rfl, rfl, initial_mirrored _⟩, ?_⟩
    split <;> rfl

/-- A breeze of 4 m/s from 45° with a half-metre tide from 225°, and no swell. -/
noncomputable def breeze : EnvConfig ℝ := ⟨4, 45, 0, 0, 0.5, 225, WaveSettings.calm, true⟩

/-- Two simulations built from the same parameters, the second in the mirrored environment,
stay mirror images over every run in which the second boat gets the same armed flags and the
mirrored commands, as long as the first boat never meets its apparent wind from dead astern
and never rolls upside down. -/
theorem mirror_image_sails_mirrored_course {p : Params ℝ} {cfg : EnvConfig ℝ}
    {clock : Option Clock} {fix : Option (GeoFix ℝ)} {compass : Option (Compass ℝ)} {s : Sim ℝ}
    (hs : Sim.new p (some (Environment.new cfg)) clock fix compass = .ok s) :
    ∃ s', Sim.new p (some (Environment.new cfg.mirror)) clock fix compass = .ok s' ∧
      ∀ inputs : List (Bool × Controls), (∀ i ∈ inputs, i.2.InServoRange) →
        (∀ k < inputs.length, (s.run (inputs.take (k + 1))).boat.ClearOfCuts) →
        (s.run inputs).Mirrored (s'.run (mirrorInputs p.rig.kind inputs)) := by
  obtain ⟨s', hs', hm, hkind⟩ := new_mirrored hs
  refine ⟨s', hs', fun inputs hc hclear => ?_⟩
  rw [← hkind]
  exact hm.run inputs hc hclear

/-- The stock sailboat is accepted in any environment, with the motor off. -/
theorem new_default (env : Environment ℝ) (clock : Option Clock) (fix : Option (GeoFix ℝ))
    (compass : Option (Compass ℝ)) :
    Sim.new Params.default (some env) clock fix compass =
      .ok ⟨Params.default, env, clock, fix, compass, Boat.initial⟩ := by
  have hcheck : (Params.default : Params ℝ).check = none := by
    simp [Params.check, Params.default, Kinematics.default]
    norm_num
  -- the stock frame has no motor, which leaves the parameters as they are
  simp only [Sim.new, Params.validate, hcheck]
  rfl

/-- The stock sailboat in a breeze from the north-east over a tide setting from the
south-west has a mirror image, which sails the mirrored course. -/
theorem stock_boat_sails_mirrored_course :
    ∃ s, Sim.new Params.default (some (Environment.new breeze)) none none none = .ok s ∧
      ∃ s', Sim.new Params.default (some (Environment.new breeze.mirror)) none none none = .ok s' ∧
        ∀ inputs : List (Bool × Controls), (∀ i ∈ inputs, i.2.InServoRange) →
          (∀ k < inputs.length, (s.run (inputs.take (k + 1))).boat.ClearOfCuts) →
          (s.run inputs).Mirrored (s'.run (mirrorInputs SailKind.mainsail inputs)) :=
  ⟨_, new_default _ none none none, mirror_image_sails_mirrored_course (new_default _ none none none)⟩

end Sim

/-! ## Dead astern

A boat that drifts with the tide through still air meets its apparent wind from dead astern,
on the cut of `atan2`. The lemmas below follow it through two steps: a level boat heading north
with its rudder centred does not turn, the first step makes no sail force, and the second makes
a heel force that rolls the boat, to the same side in the two simulations. -/

/-- Dead astern is its own wrapped angle. -/
theorem Curve.wrapDeg180_astern : Curve.wrapDeg180 (180 : ℝ) = 180 :=
  Curve.wrapDeg180_of_mem _ (by norm_num)

namespace Dcm

theorem rotate_zero (m : Dcm ℝ) : m.rotate Vec3.zero = m := by
  ext <;> simp [rotate, rowDelta, Vec3.zero]

/-- The attitude rolled by `r`, level in pitch and heading north. -/
theorem ofEuler_roll (r : ℝ) :
    (ofEuler r 0 0 : Dcm ℝ) =
      ⟨⟨1, 0, 0⟩, ⟨0, Real.cos r, -Real.sin r⟩, ⟨0, Real.sin r, Real.cos r⟩⟩ := by
  ext <;> simp [ofEuler, Scalar.sin_real, Scalar.cos_real]

theorem ofEuler_zero : (ofEuler 0 0 0 : Dcm ℝ) = identity := by
  rw [ofEuler_roll]
  ext <;> simp [identity]

theorem normalize_identity : (identity : Dcm ℝ).normalize = identity := by
  rw [← ofEuler_zero, normalize_ofEuler]

theorem toEuler_identity : (identity : Dcm ℝ).toEuler = ⟨0, 0, 0⟩ := by
  have hone : (⟨1, 0⟩ : ℂ) = 1 := rfl
  simp [toEuler, identity, boundedAsin, Scalar.atan2_real, Scalar.asin_real, hone]
  norm_num

end Dcm

namespace Kinematics

/-- A centred rudder does not turn the boat. -/
theorem yawRate_centred (k : Kinematics ℝ) (speed : ℝ) : k.yawRate (fraction 1500) speed = 0 := by
  have hfrac : (fraction 1500 : ℝ) = 0 := by
    simp [fraction, Scalar.ofNat_real]
    norm_num
  simp [yawRate, hfrac, nearZero, zeroEpsilon, Scalar.abs_real]
  norm_num

end Kinematics

namespace Rig

/-- In still air the sail makes no force. -/
theorem forces_still (r : Rig ℝ) (c : Controls) (a : ℝ) :
    (r.forces c a 0).forward = 0 ∧ (r.forces c a 0).heel = 0 := by
  simp [forces, liftDrag, resolve]

end Rig

namespace Boat

/-- A level boat heading north with no body rates keeps its attitude, but for the direct
policy's heel, which becomes its roll. -/
theorem integrateAttitude_level {p : Params ℝ} (hp : p.heelPolicy = .direct) (f : ℝ) :
    integrateAttitude p Dcm.identity Vec3.zero f =
      Dcm.ofEuler (heelAngle f p.heelAngleGain) 0 0 := by
  have hscale : (Vec3.zero : Vec3 ℝ).scale p.timeStep = Vec3.zero := by
    ext <;> simp [Vec3.zero, Vec3.scale]
  simp only [integrateAttitude, hp, hscale, Dcm.rotate_zero, Dcm.normalize_identity,
    Dcm.toEuler_identity, Dcm.normalize_ofEuler]

/-- A level boat heading north, with its rudder centred and no swell under it, does not turn:
under the direct policy it only heels, by the heel angle of its sail's heel force. -/
theorem step_dcm_of_level {p : Params ℝ} (hp : p.heelPolicy = .direct) (env : Environment ℝ)
    {c : Controls} (hc : c.get Controls.steeringChannel = 1500) {b : Boat ℝ}
    (hdcm : b.dcm = Dcm.identity) (hgyro : b.wave.gyro = Vec3.zero) :
    (step p env c b).dcm =
      Dcm.ofEuler (heelAngle (step p env c b).last.sail.heel p.heelAngleGain) 0 0 := by
  have hrates : bodyRates (0 : ℝ) 0 Vec3.zero = Vec3.zero := by
    ext <;> simp [bodyRates, Vec3.zero, Scalar.radians]
  have hpulse : (1500 : UInt16).toNat = 1500 := rfl
  simp only [step, hdcm, hgyro, hc, hp, HeelState.step, hpulse, Kinematics.yawRate_centred,
    Scalar.zero_real]
  rw [hrates, integrateAttitude_level hp]

/-- With the swell off, its disturbance only levels the boat. -/
theorem step_wave_gyro_of_calm {p : Params ℝ} {env : Environment ℝ} {c : Controls} {b : Boat ℝ}
    (hw : env.config.waves.enabled = false) :
    (step p env c b).wave.gyro =
      (⟨-(step p env c b).dcm.toEuler.roll, -(step p env c b).dcm.toEuler.pitch, 0⟩ : Vec3 ℝ).scale
        p.waveGains.angle := by
  simp only [step, WaveState.update, hw, Bool.not_false, Bool.or_true, ↓reduceIte,
    Scalar.zero_real]

/-- A boat still in the water and in still air, with its motor off, gains no acceleration. -/
theorem step_accelEarth_of_still {p : Params ℝ} (hp : p.motor = false) {env : Environment ℝ}
    {c : Controls} {b : Boat ℝ} (hwater : b.velocityWater = Vec3.zero)
    (hstill : (b.velocity - env.wind).horizontalLength = 0) (hheave : b.wave.heave = 0) :
    (step p env c b).last.accelEarth = Vec3.zero := by
  have hspeed : waterSpeed b.dcm b.velocityWater = 0 := by
    simp [hwater, waterSpeed, Dcm.mulVec, Vec3.dot, Vec3.zero]
  simp only [step, hstill, hspeed, (Rig.forces_still _ _ _).1, hheave, throttleForce, hp]
  ext <;> simp [earthAccel, headingAccel, hullDragForce, Dcm.mulVec, Vec3.dot, Vec3.zero]

theorem step_velocity (p : Params ℝ) (env : Environment ℝ) (c : Controls) (b : Boat ℝ) :
    (step p env c b).velocity = b.velocityWater + (step p env c b).last.accelEarth.scale p.timeStep +
      tideVelocity env.config env.armed := rfl

end Boat

namespace Sim

/-- Still air over a tide of 1 m/s setting from the north, the swell off. -/
noncomputable def tideConfig : EnvConfig ℝ := ⟨0, 0, 0, 0, 1, 0, ⟨WaveMode.off, 0.5, 10, 2, 0⟩, true⟩

/-- The rudder and the throttle centred, the mainsheet hauled in. -/
def driftControls : Controls := Controls.ofList [1500, 1500, 1500, 1000]

/-- Two armed steps under `driftControls`. -/
def driftInputs : List (Bool × Controls) := [(true, driftControls), (true, driftControls)]

/-- The armed environment of the drift, in still air. -/
noncomputable def driftEnv : Environment ℝ := ⟨tideConfig, Vec3.zero, true⟩

/-- The tide setting from the north is its own mirror image. -/
theorem tideConfig_mirror : tideConfig.mirror = tideConfig := by
  simp [tideConfig, EnvConfig.mirror, WaveSettings.mirror]

theorem updateWind_drift (e : Environment ℝ) (he : e.config = tideConfig) (t : ℝ) :
    ((e.setArmed true).updateWind t) = driftEnv := by
  obtain ⟨cfg, wind, armed⟩ := e
  simp only at he
  subst he
  simp [Environment.setArmed, Environment.updateWind, driftEnv, EnvConfig.windAt, tideConfig,
    Vec3.zero, Scalar.max_real]

theorem driftControls_mirror : driftControls.mirror .mainsail = driftControls := by
  have h : (3000 : UInt16) - driftControls.get Controls.steeringChannel =
      driftControls.get Controls.steeringChannel := by decide
  simp only [Controls.mirror]
  rw [h]
  simp only [Controls.set, Controls.get_eq_getElem, Vector.set_getElem_self]

theorem driftControls_steering : driftControls.get Controls.steeringChannel = 1500 := by decide

/-- The first step of the drift: in still air the sail makes no force, the boat stays level and
on its heading, and the tide sets it south at 1 m/s. -/
theorem drift_first_step :
    let b := Boat.step Params.default driftEnv driftControls Boat.initial
    b.dcm = Dcm.identity ∧ b.velocity = ⟨-1, 0, 0⟩ ∧ b.wave.gyro = Vec3.zero := by
  intro b
  have hstill : (Boat.initial.velocity - driftEnv.wind).horizontalLength = 0 := by
    simp [Boat.initial, driftEnv, Vec3.zero, Vec3.horizontalLength, Scalar.sqrt_real]
  have hheel : b.last.sail.heel = 0 := by
    simp only [b, Boat.step, hstill]
    exact (Rig.forces_still _ _ _).2
  have hdcm : b.dcm = Dcm.identity := by
    rw [Boat.step_dcm_of_level rfl _ driftControls_steering rfl rfl, hheel]
    simpa [heelAngle, Scalar.min_real, Scalar.max_real] using Dcm.ofEuler_zero
  refine ⟨hdcm, ?_, ?_⟩
  · have hheave : (Boat.initial : Boat ℝ).wave.heave = 0 := by
      simp [Boat.initial, WaveState.initial]
    rw [Boat.step_velocity, Boat.step_accelEarth_of_still rfl rfl hstill hheave]
    ext <;> simp [Boat.initial, Boat.tideVelocity, Vec3.scale, Vec3.zero, driftEnv, tideConfig,
      Scalar.cos_real, Scalar.sin_real, Scalar.radians]
  · rw [Boat.step_wave_gyro_of_calm rfl, hdcm, Dcm.toEuler_identity]
    ext <;> simp [Vec3.scale, Vec3.zero]

/-- The stock mainsail hauled in, with the apparent wind from dead astern at 1 m/s: the lift
coefficient there is `-0.5` and the drag coefficient `0.1`, and at `180°` the lift acts fully
across the boat. -/
theorem stock_forces_dead_astern :
    ((Params.default : Params ℝ).rig.forces driftControls 180 1).heel = 49 / 160 := by
  have hsheet : (driftControls.get Controls.mainsailChannel).toNat = 1000 := by decide
  have hpos : ¬ ((180 : ℝ) < 0) := by norm_num
  have hfirst : ¬ ((180 : ℝ) ≤ 0) := by norm_num
  have hlast : (170 : ℝ) ≤ 180 := by norm_num
  have hangle : (Params.default : Params ℝ).rig.sailAngle driftControls = 0 := by
    simp [Rig.sailAngle, Params.default, hsheet, Scalar.clamp, Scalar.ofNat_real, Scalar.max_real,
      Scalar.min_real]
  have haoa : (Params.default : Params ℝ).rig.angleOfAttack 180 0 = 180 := by
    simp [Rig.angleOfAttack, Params.default, Scalar.signum, hpos, Scalar.abs_real, Scalar.max_real]
  have hlift : Curve.lift.lookup (180 : ℝ) = -1 / 2 := by
    simp [Curve.lookup, Curve.lift, Curve.ofPairs, Curve.wrapDeg180_astern, Scalar.abs_real,
      hfirst, hlast, Scalar.ofScientific_real]
    norm_num
  have hdrag : Curve.drag.lookup (180 : ℝ) = 1 / 10 := by
    simp [Curve.lookup, Curve.drag, Curve.ofPairs, Curve.wrapDeg180_astern, Scalar.abs_real,
      hfirst, hlast, Scalar.ofScientific_real]
    norm_num
  simp only [Rig.forces, hangle, haoa, Rig.liftDrag, Curve.wrapDeg180_astern, hlift, hdrag,
    Rig.resolve]
  simp [hpos, Params.default, ForceScaling.isSI, ForceScaling.si, Scalar.ofScientific_real,
    Scalar.sin_real, Scalar.cos_real, Scalar.pi_real]
  norm_num

/-- The second step of the drift: the boat, level and heading north and set south by the tide,
meets its apparent wind from dead astern, and the sail's heel force rolls it to starboard. -/
theorem drift_second_step {b : Boat ℝ} (hdcm : b.dcm = Dcm.identity)
    (hvel : b.velocity = ⟨-1, 0, 0⟩) (hgyro : b.wave.gyro = Vec3.zero) :
    0 < (Boat.step Params.default driftEnv driftControls b).dcm.c.y := by
  have hspeed : (b.velocity - driftEnv.wind).horizontalLength = 1 := by
    simp [hvel, driftEnv, Vec3.zero, Vec3.horizontalLength, Scalar.sqrt_real]
  have hastern : Boat.windAngleOff (b.velocity - driftEnv.wind) b.dcm.toEuler.yaw = 180 := by
    have harg : (⟨-1, 0⟩ : ℂ) = -1 := by
      apply Complex.ext <;> simp
    have hdeg : Real.pi * 180 / Real.pi = 180 := by
      field_simp
    simp [Boat.windAngleOff, hvel, hdcm, Dcm.toEuler_identity, driftEnv, Vec3.zero,
      Scalar.atan2_real, harg, Complex.arg_neg_one, Scalar.degrees, Scalar.pi_real, hdeg,
      Curve.wrapDeg180_astern]
  have hheel : (Boat.step Params.default driftEnv driftControls b).last.sail.heel = 49 / 160 := by
    simp only [Boat.step, hspeed, hastern]
    exact stock_forces_dead_astern
  have hroll : heelAngle (49 / 160 : ℝ) Params.default.heelAngleGain = 49 / 3200 * Real.pi / 180 := by
    simp [heelAngle, Params.default, Scalar.min_real, Scalar.max_real, Scalar.ofScientific_real,
      Scalar.pi_real]
    norm_num
  rw [Boat.step_dcm_of_level rfl _ driftControls_steering hdcm hgyro, hheel, Dcm.ofEuler_roll, hroll]
  apply Real.sin_pos_of_pos_of_lt_pi
  · positivity
  · linarith [Real.pi_pos]

/-- The drift from rest: two updates without a clock, a fix or a compass are two steps of the
boat in the armed still air. -/
theorem run_drift :
    ((⟨Params.default, Environment.new tideConfig, none, none, none, Boat.initial⟩ : Sim ℝ).run
      driftInputs).boat =
      Boat.step Params.default driftEnv driftControls
        (Boat.step Params.default driftEnv driftControls Boat.initial) := by
  have henv : ((Environment.new tideConfig).setArmed true).updateWind 0 = driftEnv :=
    updateWind_drift _ rfl 0
  rw [driftInputs, run, run, run, update_bare rfl rfl rfl, update_bare rfl rfl rfl]
  simp only [setArmed, Scalar.zero_real, henv, updateWind_drift driftEnv rfl 0]

/-- With the apparent wind from dead astern the mirror image fails: a boat drifting with the
tide through still air, in an environment that is its own mirror image and under commands that
are their own mirror images, rolls after two steps, and its mirror image, which is the same
boat, rolls to the same side. -/
theorem mirror_fails_dead_astern :
    ∃ s s', Sim.new Params.default (some (Environment.new tideConfig)) none none none = .ok s ∧
      Sim.new Params.default (some (Environment.new tideConfig.mirror)) none none none = .ok s' ∧
      (∀ i ∈ driftInputs, i.2.InServoRange) ∧
      (s'.run (mirrorInputs SailKind.mainsail driftInputs)).boat.dcm ≠
        (s.run driftInputs).boat.dcm.mirror := by
  have hrange : driftControls.InServoRange := by
    unfold Controls.InServoRange
    decide
  have hinputs : mirrorInputs .mainsail driftInputs = driftInputs := by
    simp [mirrorInputs, driftInputs, driftControls_mirror]
  refine ⟨_, _, new_default _ none none none, new_default _ none none none, ?_, ?_⟩
  · simpa [driftInputs] using hrange
  · obtain ⟨hdcm, hvel, hgyro⟩ := drift_first_step
    have hroll := drift_second_step hdcm hvel hgyro
    rw [tideConfig_mirror, hinputs, run_drift]
    intro heq
    have hy := congrArg (fun m => m.c.y) heq
    simp only [Dcm.mirror_c, Vec3.mirror_y] at hy
    linarith

end Sim

end SailSim
