import Mathlib
import SailSim.Proofs.Mirror.Frame
import SailSim.Boat.Step

/-!
# Calm water

A boat at rest in still air, with no tide carrying it, no heave in the swell and no thrust,
stays at rest.  Nothing in a step can start it: the apparent wind is zero, so the sail makes no
force whatever its trim; the speed through the water is zero, so the rudder cannot turn it and
the hull has no drag; the heading-frame acceleration is zero, and turning a zero vector to any
heading gives zero.  Only the swell can lift the boat, one step late: the heave that the swell
computes at the end of a step is the vertical acceleration of the next.  So the invariant is
carried with the heave still pending in the swell, which is zero after every calm step.

* `Boat.step_becalmed` : one calm step keeps a boat at rest and in place, and leaves no air
  speed, sail force, speed or turn;
* `Boat.drive_becalmed` : **over any sequence of calm steps from rest, in exact arithmetic,
  the boat stays at rest in place, and after every step there is no air speed, sail force,
  speed or turn**;
* `Boat.calm_water_broken` : in binary64 the invariant needs both the pending heave and a
  range: a boat at rest with heave pending sinks on the next calm step, and the stock boat
  with a swell gain of `1e300` on its attitude reaches a NaN velocity on its third calm step.
-/

namespace SailSim

theorem Scalar.beq_iff_real {x y : ℝ} : (x == y) = true ↔ x = y := by
  show Scalar.beq x y = true ↔ x = y
  simp [Scalar.beq_real]

theorem WaveMode.beq_iff_eq (m m' : WaveMode) : (m == m') = true ↔ m = m' := by
  obtain ⟨a⟩ := m
  obtain ⟨b⟩ := m'
  show (a == b) = true ↔ _
  simp

namespace Vec3

@[simp] theorem zero_x_real : (zero : Vec3 ℝ).x = 0 := by simp [zero]
@[simp] theorem zero_y_real : (zero : Vec3 ℝ).y = 0 := by simp [zero]
@[simp] theorem zero_z_real : (zero : Vec3 ℝ).z = 0 := by simp [zero]

theorem isZero_iff_real (v : Vec3 ℝ) : v.isZero = true ↔ v = zero := by
  simp only [isZero, Bool.and_eq_true, Scalar.beq_iff_real]
  constructor
  · rintro ⟨⟨hx, hy⟩, hz⟩
    ext <;> simp [hx, hy, hz]
  · rintro rfl
    simp

@[simp] theorem scale_zero_real (f : ℝ) : (zero : Vec3 ℝ).scale f = zero := by
  ext <;> simp [scale, zero]

@[simp] theorem add_zero_real (v : Vec3 ℝ) : v + zero = v := by
  ext <;> simp [zero]

@[simp] theorem horizontalLength_zero_real : (zero : Vec3 ℝ).horizontalLength = 0 := by
  simp [horizontalLength, zero, Scalar.sqrt_real]

end Vec3

@[simp] theorem Dcm.mulVec_zero_real (m : Dcm ℝ) : m.mulVec Vec3.zero = Vec3.zero := by
  ext <;> simp [Dcm.mulVec, Vec3.dot, Vec3.zero]

namespace Rig

/-- In still air the sail meets no dynamic pressure. -/
theorem liftDrag_still (r : Rig ℝ) (aoa : ℝ) : r.liftDrag 0 aoa = ⟨0, 0⟩ := by
  simp only [liftDrag]
  split <;> simp

/-- In still air the sail makes no force, whatever its trim and the wind's angle. -/
theorem forces_becalmed (r : Rig ℝ) (c : Controls) (a : ℝ) :
    (r.forces c a 0).lift = 0 ∧ (r.forces c a 0).drag = 0 ∧
      (r.forces c a 0).forward = 0 ∧ (r.forces c a 0).heel = 0 := by
  simp [forces, liftDrag_still, resolve]

end Rig

/-- Without speed through the water the boat does not turn, whatever the rudder: the zero-speed
guard answers first. -/
theorem Kinematics.yawRate_still (k : Kinematics ℝ) (s : ℝ) : k.yawRate s 0 = 0 := by
  have hnear : nearZero (0 : ℝ) = true := by
    simp only [nearZero, zeroEpsilon, Scalar.abs_real, abs_zero, decide_eq_true_eq]
    rw [Scalar.ofScientific_real]
    norm_num
  simp [yawRate, hnear]

namespace Boat

section Calm

variable {α : Type} [Scalar α]

/-- The swell does not heave the boat: it does so only while armed, enabled and in heave
mode. -/
def NoHeave (env : Environment α) : Prop :=
  ¬(env.armed = true ∧ env.config.waves.enabled = true ∧ env.config.waves.mode = WaveMode.heave)

instance (env : Environment α) : Decidable (NoHeave env) :=
  inferInstanceAs (Decidable ¬(env.armed = true ∧ env.config.waves.enabled = true ∧
    env.config.waves.mode = WaveMode.heave))

/-- The conditions of one calm step: no wind, no tide carrying the boat (none set, or
disarmed), no heave from the swell, and no thrust (no motor, or its throttle centred). -/
structure Calm (p : Params α) (env : Environment α) (c : Controls) : Prop where
  wind : env.wind.isZero = true
  tide : (env.config.tideSpeed == 0) = true ∨ env.armed = false
  swell : NoHeave env
  thrust : p.motor = false ∨ c.get Controls.throttleChannel = 1500

/-- The boat stepped through the environments and commands of `inputs` in turn. -/
def drive (p : Params α) : Boat α → List (Environment α × Controls) → Boat α
  | b, [] => b
  | b, (env, c) :: rest => drive p (step p env c b) rest

theorem drive_append (p : Params α) (b : Boat α) (inputs : List (Environment α × Controls))
    (env : Environment α) (c : Controls) :
    drive p b (inputs ++ [(env, c)]) = step p env c (drive p b inputs) := by
  induction inputs generalizing b with
  | nil => rfl
  | cons i rest ih => exact ih _

/-- A property of boats that every allowed step keeps holds after any sequence of allowed
steps. -/
theorem drive_invariant {p : Params α} {I : Boat α → Prop} {P : Environment α × Controls → Prop}
    (hstep : ∀ b i, P i → I b → I (step p i.1 i.2 b)) {b : Boat α} (hb : I b)
    {inputs : List (Environment α × Controls)} (hP : ∀ i ∈ inputs, P i) : I (drive p b inputs) := by
  induction inputs generalizing b with
  | nil => exact hb
  | cons i rest ih =>
    exact ih (hstep b i (hP i List.mem_cons_self) hb) fun j hj => hP j (List.mem_cons_of_mem _ hj)

/-- No tide carries the boat when none is set or the boat is disarmed. -/
theorem tideVelocity_calm {cfg : EnvConfig α} {armed : Bool}
    (h : (cfg.tideSpeed == 0) = true ∨ armed = false) : tideVelocity cfg armed = Vec3.zero := by
  have hoff : (armed && !(cfg.tideSpeed == 0)) = false := by
    rcases h with h | h <;> simp [h]
  simp only [tideVelocity, hoff, Bool.false_eq_true, if_false]

/-- Unless the swell acts in heave mode, the heave it leaves pending is the one that cancels the
vertical velocity while it is off, and none while it acts. -/
theorem WaveState.update_heave_of_noHeave (w : WaveState α) (gains : WaveGains α) (dt : α)
    (s : WaveSettings α) {armed : Bool} (att : Euler α) (v : Vec3 α)
    (hs : ¬(armed = true ∧ s.enabled = true ∧ s.mode = WaveMode.heave)) :
    (w.update gains dt s armed att v).heave =
      if (!armed || !s.enabled) = true then -v.z * gains.heave else 0 := by
  unfold WaveState.update
  split
  · rfl
  · -- armed and enabled, so not in heave mode
    rename_i hon
    have hon' : armed = true ∧ s.enabled = true := by simpa using hon
    have hmode : (s.mode == WaveMode.heave) = false := by
      rw [Bool.eq_false_iff, ne_eq, WaveMode.beq_iff_eq]
      exact fun hm => hs ⟨hon'.1, hon'.2, hm⟩
    simp [hmode]

end Calm

/-- A boat at rest: no velocity over ground or through the water, and no heave pending in the
swell. -/
structure AtRest (b : Boat ℝ) : Prop where
  velocityWater : b.velocityWater = Vec3.zero
  velocity : b.velocity = Vec3.zero
  heave : b.wave.heave = 0

/-- What a calm step leaves behind: no air over the boat, no sail force, no speed through the
water and no turn. -/
structure Becalmed (b : Boat ℝ) : Prop where
  airspeed : b.airspeed = 0
  rpm : b.rpm = 0
  lift : b.last.sail.lift = 0
  drag : b.last.sail.drag = 0
  forward : b.last.sail.forward = 0
  heel : b.last.sail.heel = 0
  speed : b.last.speed = 0
  yawRate : b.last.yawRate = 0

theorem initial_atRest : (initial : Boat ℝ).AtRest :=
  ⟨rfl, rfl, by simp [initial, WaveState.initial]⟩

theorem throttleForce_calm {p : Params ℝ} {c : Controls}
    (h : p.motor = false ∨ c.get Controls.throttleChannel = 1500) : throttleForce p c = 0 := by
  unfold throttleForce
  split
  · -- a motor frame, so the throttle is centred
    rename_i hmotor
    have hpulse : (c.get Controls.throttleChannel).toNat = 1500 := by
      rw [h.resolve_left (by simp [hmotor])]
      rfl
    simp only [motorThrust, hpulse, Scalar.min_real, Scalar.max_real, Scalar.ofNat_real]
    norm_num
  · simp

theorem hullDragForce_still (p : Params ℝ) : hullDragForce p 0 = 0 := by
  simp [hullDragForce]

theorem waterSpeed_still (m : Dcm ℝ) : waterSpeed m Vec3.zero = 0 := by
  simp [waterSpeed]

/-- With no thrust, no sail drive, no drag and no turn, the boat gains no acceleration at any
heading, and a swell with no heave pending does not lift it. -/
theorem earthAccel_still (p : Params ℝ) (m : Dcm ℝ) :
    earthAccel m (headingAccel p 0 0 0 0 0) 0 = Vec3.zero := by
  have hhead : headingAccel p (0 : ℝ) 0 0 0 0 = Vec3.zero := by
    ext <;> simp [headingAccel, Vec3.zero]
  rw [earthAccel, hhead, Dcm.mulVec_zero_real]
  ext <;> simp

/-- The swell leaves no heave pending unless it acts in heave mode, as long as the boat does not
move vertically. -/
theorem WaveState.update_heave_calm (w : WaveState ℝ) (gains : WaveGains ℝ) (dt : ℝ)
    (s : WaveSettings ℝ) {armed : Bool} (att : Euler ℝ) {v : Vec3 ℝ}
    (hs : ¬(armed = true ∧ s.enabled = true ∧ s.mode = WaveMode.heave)) (hv : v.z = 0) :
    (w.update gains dt s armed att v).heave = 0 := by
  rw [WaveState.update_heave_of_noHeave _ _ _ _ _ _ hs]
  split <;> simp [hv]

/-- **One calm step.**  From rest, a calm step keeps the boat at rest and in place, and leaves
no air speed, sail force, speed or turn. -/
theorem step_becalmed {p : Params ℝ} {env : Environment ℝ} {c : Controls} (hc : Calm p env c)
    {b : Boat ℝ} (hb : b.AtRest) :
    (step p env c b).AtRest ∧ (step p env c b).position = b.position ∧
      (step p env c b).Becalmed := by
  have hwind : b.velocity - env.wind = Vec3.zero := by
    rw [hb.velocity, (Vec3.isZero_iff_real _).1 hc.wind]
    ext <;> simp [Vec3.zero]
  have hair : (b.velocity - env.wind).horizontalLength = 0 := by
    rw [hwind, Vec3.horizontalLength_zero_real]
  have hsail := Rig.forces_becalmed p.rig c (windAngleOff (b.velocity - env.wind) b.dcm.toEuler.yaw)
  have hspeed : (step p env c b).last.speed = 0 := by
    rw [step_last_speed, hb.velocityWater, waterSpeed_still]
  have hturn : (step p env c b).last.yawRate = 0 := by
    rw [step_last_yawRate, hspeed, Kinematics.yawRate_still]
  -- no force of any kind: the heading-frame acceleration vanishes
  have haccel : (step p env c b).last.accelEarth = Vec3.zero := by
    rw [step_last_accelEarth, step_last_throttle, throttleForce_calm hc.thrust, step_last_sail,
      hair, hsail.2.2.1, step_last_hullDrag, hspeed, hullDragForce_still, hturn, hb.heave,
      earthAccel_still]
  have hwater : (step p env c b).velocityWater = Vec3.zero := by
    rw [step_velocityWater, hb.velocityWater, haccel, Vec3.scale_zero_real, Vec3.add_zero_real]
  have hvel : (step p env c b).velocity = Vec3.zero := by
    rw [step_velocity_eq, hwater, step_last_tideVelocity, tideVelocity_calm hc.tide,
      Vec3.add_zero_real]
  refine ⟨⟨hwater, hvel, ?_⟩, ?_, ?_⟩
  · rw [step_wave]
    exact WaveState.update_heave_calm _ _ _ _ _ hc.swell (by rw [hvel, Vec3.zero_z_real])
  · rw [step_position, hvel, Vec3.scale_zero_real, Vec3.add_zero_real]
  · have hforces : (step p env c b).last.sail =
        p.rig.forces c (windAngleOff (b.velocity - env.wind) b.dcm.toEuler.yaw) 0 := by
      rw [step_last_sail, hair]
    exact ⟨(step_airspeed _ _ _ _).trans hair, (step_rpm _ _ _ _).trans hair,
      by rw [hforces]; exact hsail.1, by rw [hforces]; exact hsail.2.1,
      by rw [hforces]; exact hsail.2.2.1, by rw [hforces]; exact hsail.2.2.2, hspeed, hturn⟩

/-- **Calm water is a fixed point.**  In exact arithmetic, for any parameters, any boat at rest
(no velocity over ground or through the water, no heave pending in the swell; the boat a new
simulation starts from is one, `initial_atRest`) and any sequence of calm steps, whatever the
rudder, sheet and wing: the boat stays at rest and in place, and after every step there is no
air speed, no sail force, no speed through the water and no turn.  The induction is on the
steps, each kept by `step_becalmed`. -/
theorem drive_becalmed {p : Params ℝ} {b : Boat ℝ} (hb : b.AtRest)
    {inputs : List (Environment ℝ × Controls)} (hcalm : ∀ i ∈ inputs, Calm p i.1 i.2) :
    (drive p b inputs).AtRest ∧ (drive p b inputs).position = b.position ∧
      (inputs ≠ [] → (drive p b inputs).Becalmed) := by
  -- at rest and in place is kept by every calm step
  have hrest : ∀ l : List (Environment ℝ × Controls), (∀ i ∈ l, Calm p i.1 i.2) →
      (drive p b l).AtRest ∧ (drive p b l).position = b.position :=
    fun l hl => drive_invariant (I := fun b' => b'.AtRest ∧ b'.position = b.position)
      (fun b' i hi hb' => ⟨(step_becalmed hi hb'.1).1, (step_becalmed hi hb'.1).2.1.trans hb'.2⟩)
      ⟨hb, rfl⟩ hl
  refine ⟨(hrest inputs hcalm).1, (hrest inputs hcalm).2, fun hne => ?_⟩
  -- the last step starts at rest, so it leaves the boat becalmed
  obtain ⟨l, ⟨env, c⟩, rfl⟩ := (List.eq_nil_or_concat' inputs).resolve_left hne
  have hl : ∀ i ∈ l, Calm p i.1 i.2 := fun i hi => hcalm i (List.mem_append_left _ hi)
  rw [drive_append]
  exact (step_becalmed (hcalm _ (List.mem_append_right _ (List.mem_singleton_self _)))
    (hrest l hl).1).2.2

/-- Still air with no tide and no swell, armed. -/
noncomputable def armedCalm : EnvConfig ℝ := { EnvConfig.calm with armed := true }

theorem calm_armedCalm (c : Controls) :
    Calm (Params.default : Params ℝ) (Environment.new armedCalm) c where
  wind := by
    rw [Vec3.isZero_iff_real]
    ext <;> simp [Environment.new, EnvConfig.windAt, armedCalm, EnvConfig.calm, Scalar.max_real]
  tide := .inl (Scalar.beq_iff_real.2 (by simp [Environment.new, armedCalm, EnvConfig.calm]))
  swell := fun h => by
    have hoff : (WaveSettings.calm : WaveSettings ℝ).enabled = false := rfl
    simp [Environment.new, armedCalm, EnvConfig.calm, hoff] at h
  thrust := .inl rfl

/-- The stock boat armed in still air, first trimmed to the centre, then with its rudder hard
over and its mainsheet hauled in. -/
noncomputable def becalmedInputs : List (Environment ℝ × Controls) :=
  [(Environment.new armedCalm, Controls.ofList [1500, 1500, 1500, 1500]),
    (Environment.new armedCalm, Controls.ofList [2000, 1500, 1500, 1000])]

theorem calm_becalmedInputs : ∀ i ∈ becalmedInputs, Calm (Params.default : Params ℝ) i.1 i.2 := by
  intro i hi
  simp only [becalmedInputs, List.mem_cons, List.not_mem_nil, or_false] at hi
  rcases hi with rfl | rfl <;> exact calm_armedCalm _

/-- The stock boat, armed in still air, trimmed and then steered hard over with its sheet hauled
in, stays at rest at home. -/
theorem stock_boat_stays_becalmed :
    ((initial : Boat ℝ).AtRest ∧ ∀ i ∈ becalmedInputs, Calm (Params.default : Params ℝ) i.1 i.2) ∧
      (drive Params.default initial becalmedInputs).AtRest ∧
      (drive Params.default initial becalmedInputs).position = (initial : Boat ℝ).position ∧
      (becalmedInputs ≠ [] → (drive Params.default initial becalmedInputs).Becalmed) :=
  ⟨⟨initial_atRest, calm_becalmedInputs⟩, drive_becalmed initial_atRest calm_becalmedInputs⟩

/-- The rudder, throttle and both sheets at trim. -/
def trimmed : Controls := Controls.ofList [1500, 1500, 1500, 1500]

/-- An armed swell of half a metre in heave mode, in still air with no tide. -/
def heaveSwell : EnvConfig Float :=
  { EnvConfig.calm with waves := ⟨WaveMode.heave, 0.5, 10, 2, 0⟩, armed := true }

/-- The same swell in attitude mode. -/
def attitudeSwell : EnvConfig Float :=
  { EnvConfig.calm with waves := ⟨WaveMode.attitude, 0.5, 10, 2, 0⟩, armed := true }

/-- The stock boat with the torque heel policy and a swell gain of `1e300` on its attitude. -/
def steepParams : Params Float :=
  { Params.default with heelPolicy := .torque, waveGains := ⟨1e300, 1⟩ }

/-- In binary64 calm water is no fixed point for either of two reasons.  A boat at rest can have
heave pending: one armed step in a heave swell leaves the stock boat at rest with the swell's
heave computed, and on the next step, disarmed and so calm, that heave moves it.  And the range
runs out: with a swell gain of `1e300` on the attitude, which parameter validation accepts, the
attitude overflows and the third calm step from the start gives a NaN velocity. -/
theorem calm_water_broken :
    ((step Params.default (Environment.new heaveSwell) trimmed initial).velocity.isZero = true ∧
      (step Params.default (Environment.new heaveSwell) trimmed initial).velocityWater.isZero = true ∧
      Calm Params.default ((Environment.new heaveSwell).setArmed false) trimmed ∧
      (step Params.default ((Environment.new heaveSwell).setArmed false) trimmed
        (step Params.default (Environment.new heaveSwell) trimmed initial)).velocity.isZero = false) ∧
    (steepParams.validate = .ok steepParams ∧
      (∀ i ∈ List.replicate 3 (Environment.new attitudeSwell, trimmed), Calm steepParams i.1 i.2) ∧
      (drive steepParams initial
        (List.replicate 3 (Environment.new attitudeSwell, trimmed))).velocity.isZero = false) := by
  constructor
  · -- the pending heave: two steps of the stock boat, evaluated
    exact ⟨by decide +kernel, by decide +kernel,
      ⟨by decide +kernel, by decide +kernel, by decide +kernel, .inl rfl⟩, by decide +kernel⟩
  · -- the overflow: three steps of the steep boat, evaluated
    refine ⟨rfl, ?_, by decide +kernel⟩
    intro i hi
    obtain ⟨-, rfl⟩ := List.mem_replicate.1 hi
    exact ⟨by decide +kernel, by decide +kernel, by decide +kernel, .inl rfl⟩

end Boat

end SailSim
