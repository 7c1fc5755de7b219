import SailSim.Proofs.Binary64.Remainder
import SailSim.Proofs.Exact
import SailSim.Wave

/-!
# The wave phase stays reduced

Each call of `WaveState.update` that is armed with the swell on adds to the phase the distance
the wave travels relative to the boat, in wavelengths, as an angle (`WaveState.advance`), and
reduces the sum into `[0, 2π)` with `WaveState.wrapTwoPi`; any other call resets the phase to
zero (`WaveState.update_phase`).

* `WaveState.wrapTwoPi_mem` : in binary64 the reduction takes every finite angle into
  `[0, 2π)`, whatever rounding the remainder and the correction by `2π` meet; an infinite or
  NaN angle gives NaN (`wrapTwoPi_of_not_finite`);
* `WaveState.wrapTwoPi_mem_real` : in exact arithmetic every angle lands in `[0, 2π)`;
* **`phase_reduced_unless_advance_overflows`** : after every call the phase is exactly zero
  unless armed with the swell on, and then in `[0, 2π)` as long as the phase plus the advance is
  finite, NaN otherwise; in exact arithmetic always in `[0, 2π)` (`update_phase_mem_real`).

Nothing bounds the advance.  The settings accept every positive wavelength, and a subnormal one
makes the advance infinite, so the phase of a single call from rest is NaN
(`subnormal_wavelength_loses_phase`); the phase then stays NaN until a call resets it.
-/

namespace SailSim

open Binary64 Float.Model

namespace WaveState

variable {α : Type} [Scalar α]

/-- The phase a call adds: the distance the wave travels relative to the boat over `dt`, in
wavelengths, as an angle. -/
def advance (dt : α) (s : WaveSettings α) (velocity : Vec3 α) : α :=
  let heading := s.direction * Scalar.pi / 180
  let boatSpeed := velocity.x * Scalar.cos heading + velocity.y * Scalar.sin heading
  (s.speed - boatSpeed) * dt / s.length * twoPi

/-- A call resets the phase unless it is armed with the swell on, and otherwise reduces the
phase plus the advance. -/
theorem update_phase (w : WaveState α) (gains : WaveGains α) (dt : α) (s : WaveSettings α)
    (armed : Bool) (att : Euler α) (velocity : Vec3 α) :
    (w.update gains dt s armed att velocity).phase =
      if (armed && s.enabled) = true then wrapTwoPi (w.phase + advance dt s velocity) else 0 := by
  unfold update
  cases armed <;> cases s.enabled <;> rfl

/-! ### In binary64 -/

theorem unpack_twoPi :
    ∃ m e h, (twoPi : Float).toModel.unpack = .finite .positive m e h :=
  ⟨_, _, _, rfl⟩

/-- **The phase reduction.**  Every finite angle is reduced into `[0, 2π)`. -/
theorem wrapTwoPi_mem {x : Float} (hx : x.isFinite = true) :
    0 ≤ wrapTwoPi x ∧ wrapTwoPi x < twoPi := by
  obtain ⟨m, e, h, htwo⟩ := unpack_twoPi
  obtain ⟨hnan, hnonneg⟩ := zero_le_reduce hx htwo
  have htwoNaN : (twoPi : Float).isNaN = false := by
    show (twoPi : Float).toModel.unpack.isNaN = false
    rw [htwo]; rfl
  -- the last guard sends what rounded up to `2π` back to zero
  have hguard : ∀ w : Float, w.isNaN = false → 0 ≤ w →
      0 ≤ (if w ≥ twoPi then 0 else w) ∧ (if w ≥ twoPi then 0 else w) < twoPi := by
    intro w hwnan hw
    split
    · exact ⟨by decide, by decide +kernel⟩
    · rename_i hge
      exact ⟨hw, lt_of_not_le htwoNaN hwnan hge⟩
  exact hguard _ hnan hnonneg

/-- An infinite or NaN angle has no remainder: the reduction gives NaN. -/
theorem wrapTwoPi_of_not_finite {x : Float} (hx : x.isFinite = false) :
    (wrapTwoPi x).isNaN = true := by
  have hrem : (Scalar.truncRem x twoPi : Float) = 0.0 / 0.0 := by
    have hx' : x.toModel.unpack.isFinite = false := hx
    have hbad : x.isInf = true ∨ x.isNaN = true := by
      show x.toModel.unpack.isInf = true ∨ x.toModel.unpack.isNaN = true
      revert hx'
      cases x.toModel.unpack <;> simp [UnpackedFloat.isFinite, UnpackedFloat.isInf, UnpackedFloat.isNaN]
    show truncRem x twoPi = 0.0 / 0.0
    unfold truncRem
    rw [if_pos]
    rcases hbad with h | h <;> simp only [h, Bool.or_true, Bool.true_or]
  unfold wrapTwoPi
  simp only [hrem]
  decide +kernel

/-! ### In exact arithmetic -/

theorem twoPi_real : (twoPi : ℝ) = 2 * Real.pi := by
  simp [twoPi, Scalar.pi_real]

/-- In exact arithmetic every angle is reduced into `[0, 2π)`. -/
theorem wrapTwoPi_mem_real (x : ℝ) : 0 ≤ wrapTwoPi x ∧ wrapTwoPi x < 2 * Real.pi := by
  unfold wrapTwoPi
  simp only [twoPi_real, Scalar.truncRem_real, Scalar.zero_real]
  obtain ⟨hlt, -⟩ := truncToward_spec (x / (2 * Real.pi))
  set t := truncToward (x / (2 * Real.pi))
  have hpi := Real.pi_pos
  -- the remainder lies strictly within one period of zero
  have hw : |x - 2 * Real.pi * t| < 2 * Real.pi := by
    have : x - 2 * Real.pi * t = 2 * Real.pi * (x / (2 * Real.pi) - t) := by
      field_simp
    rw [this, abs_mul, abs_of_pos (by positivity)]
    nlinarith
  obtain ⟨hlo, hhi⟩ := abs_lt.1 hw
  split_ifs <;> constructor <;> linarith

/-- In exact arithmetic every call leaves the phase in `[0, 2π)`, and exactly zero unless armed
with the swell on. -/
theorem update_phase_mem_real (w : WaveState ℝ) (gains : WaveGains ℝ) (dt : ℝ)
    (s : WaveSettings ℝ) (armed : Bool) (att : Euler ℝ) (velocity : Vec3 ℝ) :
    0 ≤ (w.update gains dt s armed att velocity).phase ∧
      (w.update gains dt s armed att velocity).phase < 2 * Real.pi ∧
      ((armed && s.enabled) = false → (w.update gains dt s armed att velocity).phase = 0) := by
  rw [update_phase]
  split
  · rename_i hon
    obtain ⟨hlo, hhi⟩ := wrapTwoPi_mem_real (w.phase + advance dt s velocity)
    exact ⟨hlo, hhi, fun hoff => absurd hon (by rw [hoff]; decide)⟩
  · rw [Scalar.zero_real]
    exact ⟨le_refl 0, by positivity, fun _ => rfl⟩

end WaveState

/-- **The phase stays reduced unless the advance overflows.**  In binary64, a call that is not
armed with the swell on leaves the phase exactly zero; an armed call with the swell on leaves it
in `[0, 2π)` whenever the phase plus the advance is finite, and NaN otherwise. -/
theorem phase_reduced_unless_advance_overflows (w : WaveState Float) (gains : WaveGains Float)
    (dt : Float) (s : WaveSettings Float) (armed : Bool) (att : Euler Float)
    (velocity : Vec3 Float) :
    ((armed && s.enabled) = false → (w.update gains dt s armed att velocity).phase = 0) ∧
      ((armed && s.enabled) = true →
        ((w.phase + WaveState.advance dt s velocity).isFinite = true →
          0 ≤ (w.update gains dt s armed att velocity).phase ∧
            (w.update gains dt s armed att velocity).phase < WaveState.twoPi) ∧
        ((w.phase + WaveState.advance dt s velocity).isFinite = false →
          (w.update gains dt s armed att velocity).phase.isNaN = true)) := by
  refine ⟨fun hoff => ?_, fun hon => ?_⟩
  · rw [WaveState.update_phase, hoff]
    rfl
  · rw [WaveState.update_phase, if_pos hon]
    exact ⟨WaveState.wrapTwoPi_mem, WaveState.wrapTwoPi_of_not_finite⟩

/-- The stock swell of the examples, armed: one call from rest keeps the phase reduced. -/
def stockSwell : WaveSettings Float := ⟨WaveMode.attitude, 0.5, 10, 2, 0⟩

theorem stock_swell_phase_reduced :
    (true && stockSwell.enabled) = true ∧
      ((WaveState.initial : WaveState Float).phase +
          WaveState.advance 0.0025 stockSwell ⟨1, 0, 0⟩).isFinite = true ∧
      0 ≤ ((WaveState.initial : WaveState Float).update WaveGains.unit 0.0025 stockSwell true
          ⟨0, 0, 0⟩ ⟨1, 0, 0⟩).phase ∧
      ((WaveState.initial : WaveState Float).update WaveGains.unit 0.0025 stockSwell true
          ⟨0, 0, 0⟩ ⟨1, 0, 0⟩).phase < WaveState.twoPi := by
  have hon : (true && stockSwell.enabled) = true := by decide +kernel
  have hfin : ((WaveState.initial : WaveState Float).phase +
      WaveState.advance 0.0025 stockSwell ⟨1, 0, 0⟩).isFinite = true := by decide +kernel
  exact ⟨hon, hfin, (phase_reduced_unless_advance_overflows _ WaveGains.unit 0.0025 stockSwell
    true ⟨0, 0, 0⟩ ⟨1, 0, 0⟩).2 hon |>.1 hfin⟩

/-- A subnormal wavelength, which the settings accept, makes the advance overflow: one armed
call from rest in still water leaves a NaN phase. -/
theorem subnormal_wavelength_loses_phase :
    (⟨WaveMode.attitude, 1, 5e-324, 1, 0⟩ : WaveSettings Float).enabled = true ∧
      ((WaveState.initial : WaveState Float).update WaveGains.unit 1
        ⟨WaveMode.attitude, 1, 5e-324, 1, 0⟩ true ⟨0, 0, 0⟩ ⟨0, 0, 0⟩).phase.isNaN = true := by
  constructor <;> decide +kernel

end SailSim
