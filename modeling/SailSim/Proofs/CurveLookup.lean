import SailSim.Proofs.Binary64.Interpolation
import SailSim.Proofs.AngleWrap

/-!
# Reading a coefficient curve

`Curve.lookup` reads a breakpoint table at the absolute value of the wrapped angle.  What it is
documented to compute is the piecewise-linear curve `Curve.piecewiseLinear`: flat at the first
coefficient up to the first breakpoint, flat at the last coefficient from the last breakpoint
on, and in between the line on the first pair of consecutive breakpoints whose upper angle is
at least the angle read.

* `Curve.search_cases` : the search of the lookup stops at that pair, with the angle past its
  lower breakpoint, or runs past every breakpoint;
* `Curve.lookup_eq_piecewiseLinear_float` : in binary64 the lookup is that reading for every
  finite angle and every table with a finite first coefficient, except that a first coefficient
  of `-0` reads as `+0` on the flat first segment (`interpolate_origin`);
* `Curve.lookup_eq_piecewiseLinear_real`, `Curve.piecewiseLinear_between` : in exact
  arithmetic the lookup is that reading for every table and angle, and lies between two of the
  table's coefficients;
* **`lookup_reads_piecewise_linear_curve`** assembles these.  The order of the breakpoints plays
  no part in any of them.

The flat first segment is computed as the line from `(0, c)` to `(a₀, c)`, so an infinite first
coefficient reads as NaN there (`infinite_first_coefficient_reads_nan`).
-/

namespace SailSim

open Binary64 Float.Model Float.Model.UnpackedFloat

namespace Curve

variable {α : Type} [Scalar α]

/-- One segment of the documented reading: the line through `lo` and `hi` at `x`, or the upper
coefficient when the two breakpoints have no span. -/
def segmentValue (x : α) (lo hi : Breakpoint α) : α :=
  if hi.angle - lo.angle == 0 then hi.coefficient
  else lo.coefficient + (x - lo.angle) / (hi.angle - lo.angle) * (hi.coefficient - lo.coefficient)

/-- The piecewise-linear curve a breakpoint table describes, read at `x`: the first coefficient
up to the first breakpoint, the last coefficient from the last breakpoint on, and in between the
segment of the first pair of consecutive breakpoints whose upper angle is at least `x`.  The
empty table reads `0`. -/
def piecewiseLinear (t : Curve α) (x : α) : α :=
  match t with
  | [] => 0
  | first :: rest =>
    if x ≤ first.angle then first.coefficient
    else
      let last := (rest.getLast?).getD first
      if x ≥ last.angle then last.coefficient
      else
        match ((first :: rest).zip rest).find? (fun p => decide (x ≤ p.2.angle)) with
        | some p => segmentValue x p.1 p.2
        | none => last.coefficient

/-- The search interpolates on the first pair of consecutive breakpoints whose upper angle is at
least `a`, whose lower angle is then below `a`; past them all it gives `last`.  The induction
follows the search, one breakpoint at a time. -/
theorem search_cases (a last : α) (prev : Breakpoint α) (rest : List (Breakpoint α))
    (hprev : ¬ a ≤ prev.angle) :
    (search a last prev rest = last ∧
        ((prev :: rest).zip rest).find? (fun p => decide (a ≤ p.2.angle)) = none) ∨
      ∃ lo hi, lo ∈ prev :: rest ∧ hi ∈ rest ∧ ¬ a ≤ lo.angle ∧ a ≤ hi.angle ∧
        search a last prev rest = interpolate a lo hi ∧
        ((prev :: rest).zip rest).find? (fun p => decide (a ≤ p.2.angle)) = some (lo, hi) := by
  induction rest generalizing prev with
  | nil => exact .inl ⟨rfl, rfl⟩
  | cons p rest ih =>
    by_cases hp : a ≤ p.angle
    · refine .inr ⟨prev, p, List.mem_cons_self, List.mem_cons_self, hprev, hp, ?_, ?_⟩
      · simp only [search, if_pos hp]
      · simp [List.zip_cons_cons, hp]
    · rcases ih p hp with ⟨hs, hf⟩ | ⟨lo, hi, hlo, hhi, hlo', hhi', hs, hf⟩
      · left
        constructor
        · simp only [search, if_neg hp, hs]
        · simp [List.zip_cons_cons, hp, hf]
      · right
        refine ⟨lo, hi, List.mem_cons_of_mem _ hlo, List.mem_cons_of_mem _ hhi, hlo', hhi', ?_, ?_⟩
        · simp only [search, if_neg hp, hs]
        · simp [List.zip_cons_cons, hp, hf]

theorem getLast?_getD_mem {β : Type} (first : β) (rest : List β) :
    (rest.getLast?).getD first ∈ first :: rest := by
  cases h : rest.getLast? with
  | none => exact List.mem_cons_self
  | some b => exact List.mem_cons_of_mem _ (List.mem_of_getLast? h)

/-! ### The reading in binary64 -/

/-- On a pair whose lower angle is not at least `x` and whose upper angle is, the search's
segment and the documented one agree: the span is above zero, or NaN when the lower angle is,
so neither reading sees a zero span. -/
theorem interpolate_eq_segmentValue {x : Float} {lo hi : Breakpoint Float} (hx : x.isFinite = true)
    (hlo : ¬ x ≤ lo.angle) (hhi : x ≤ hi.angle) : interpolate x lo hi = segmentValue x lo hi := by
  have hspan : ¬ hi.angle - lo.angle ≤ 0 ∧ (hi.angle - lo.angle == 0) = false := by
    cases hnan : lo.angle.isNaN with
    | true =>
      apply not_le_zero_of_isNaN
      rw [isNaN_eq_unpack] at hnan ⊢
      show (Float.Model.pack (UnpackedFloat.sub Format.binary64 hi.angle.toModel.unpack
        lo.angle.toModel.unpack)).unpack.isNaN = true
      have hu : lo.angle.toModel.unpack = .notANumber := by
        cases hv : lo.angle.toModel.unpack <;> rw [hv] at hnan <;> first | rfl | cases hnan
      rw [isNaN_unpack_pack, hu]
      cases hi.angle.toModel.unpack <;> rfl
    | false =>
      exact not_le_zero_of_pos
        (zero_lt_sub_of_lt_of_le hx (lt_of_not_le (isNaN_of_isFinite hx) hnan hlo) hhi)
  simp only [interpolate, segmentValue]
  rw [if_neg hspan.1, if_neg (by rw [hspan.2]; decide)]

/-- **The flat first segment.**  The line from `(0, c)` to `(a₀, c)`, read at a finite `x ≥ 0`
up to `a₀`, gives `c` back for every finite `c`, except that `-0` comes back as `+0`: the slope
`(x - 0) / a₀` is a finite number no less than zero, it multiplies `c - c = +0`, and adding
`+0` changes only a negative zero. -/
theorem interpolate_origin {x a₀ c : Float} (hx : x.isFinite = true)
    (hxs : HasSign .positive x.toModel.unpack) (hc : c.isFinite = true) (hxa : x ≤ a₀)
    (ha : ¬ a₀ ≤ 0) :
    interpolate x ⟨0, c⟩ ⟨a₀, c⟩ = c ∨ (c = -0 ∧ interpolate x ⟨0, c⟩ ⟨a₀, c⟩ = 0) := by
  have ha₀ : 0 < a₀ := lt_of_not_le (isNaN_of_le_right hxa) rfl ha
  obtain ⟨hff, hfs⟩ := div_of_le hx hxs ha₀ hxa
  have hz := float_mul_zero hff hfs (float_sub_self hc)
  have hi : interpolate x ⟨0, c⟩ ⟨a₀, c⟩ = c + x / a₀ * (c - c) := by
    simp only [interpolate, float_sub_zero]
    rw [if_neg ha]
  rw [hi]
  exact float_add_zero c hz

/-- In binary64 the lookup is the documented reading at the absolute value of the wrapped
angle, for every finite angle and every table with a finite first coefficient, up to the sign
of a zero first coefficient. -/
theorem lookup_eq_piecewiseLinear_float {t : Curve Float} {a : Float} (ha : a.isFinite = true)
    (hc : ∀ b ∈ t.head?, b.coefficient.isFinite = true) :
    lookup t a = piecewiseLinear t (Scalar.abs (wrapDeg180 a)) ∨
      (piecewiseLinear t (Scalar.abs (wrapDeg180 a)) = -0 ∧ lookup t a = 0) := by
  obtain ⟨hw₁, hw₂⟩ := wrapDeg180_mem_of_isFinite ha
  have hwf := isFinite_of_le_of_le (by decide +kernel) (by decide +kernel) hw₁ hw₂
  obtain ⟨hxf, hxs⟩ : (Scalar.abs (wrapDeg180 a)).isFinite = true ∧
      HasSign .positive (Scalar.abs (wrapDeg180 a)).toModel.unpack := abs_of_isFinite hwf
  cases t with
  | nil => exact .inl rfl
  | cons first rest =>
    have hc₀ := hc first rfl
    simp only [lookup, piecewiseLinear]
    generalize Scalar.abs (wrapDeg180 a) = x at hxf hxs ⊢
    by_cases h₁ : x ≤ first.angle
    · -- up to the first breakpoint
      rw [if_pos h₁, if_pos h₁]
      by_cases h₂ : first.angle ≤ 0
      · exact .inl (by rw [if_pos h₂])
      · rw [if_neg h₂]
        exact interpolate_origin hxf hxs hc₀ h₁ h₂
    · rw [if_neg h₁, if_neg h₁]
      by_cases h₃ : x ≥ ((rest.getLast?).getD first).angle
      · exact .inl (by rw [if_pos h₃, if_pos h₃])
      · -- between the breakpoints: the search finds the documented pair
        rw [if_neg h₃, if_neg h₃]
        left
        rcases search_cases x ((rest.getLast?).getD first).coefficient first rest h₁ with
          ⟨hs, hf⟩ | ⟨lo, hi, -, -, hlo, hhi, hs, hf⟩
        · rw [hs, hf]
        · rw [hs, hf]
          exact interpolate_eq_segmentValue hxf hlo hhi

-- a first coefficient of `-0` reads back as `+0`
example : (lookup [(⟨10, -0⟩ : Breakpoint Float)] 5).toBits = 0 ∧
    (piecewiseLinear [(⟨10, -0⟩ : Breakpoint Float)] (Scalar.abs (wrapDeg180 5))).toBits =
      0x8000000000000000 := by
  constructor <;> decide +kernel

/-! ### The reading in exact arithmetic -/

theorem interpolate_eq_segmentValue_real {x : ℝ} {lo hi : Breakpoint ℝ} (hlo : ¬ x ≤ lo.angle)
    (hhi : x ≤ hi.angle) : interpolate x lo hi = segmentValue x lo hi := by
  have hspan : 0 < hi.angle - lo.angle := by linarith [not_le.1 hlo]
  simp only [interpolate, segmentValue, Scalar.zero_real, not_le.2 hspan, if_false]
  rw [if_neg]
  show ¬ Scalar.beq (hi.angle - lo.angle) 0 = true
  rw [Scalar.beq_real, decide_eq_true_eq]
  exact hspan.ne'

theorem interpolate_origin_real {x a₀ c : ℝ} (ha : ¬ a₀ ≤ 0) :
    interpolate x ⟨0, c⟩ ⟨a₀, c⟩ = c := by
  simp [interpolate, ha]

/-- A segment of the documented reading, on a pair with `x` past the lower angle and up to the
upper one, lies between the two coefficients. -/
theorem segmentValue_between {x : ℝ} {lo hi : Breakpoint ℝ} (hlo : ¬ x ≤ lo.angle)
    (hhi : x ≤ hi.angle) :
    Min.min lo.coefficient hi.coefficient ≤ segmentValue x lo hi ∧
      segmentValue x lo hi ≤ Max.max lo.coefficient hi.coefficient := by
  rw [← interpolate_eq_segmentValue_real hlo hhi]
  have hspan : 0 < hi.angle - lo.angle := by linarith [not_le.1 hlo]
  -- the slope is a fraction of the way from `lo` to `hi`
  have hf₀ : 0 ≤ (x - lo.angle) / (hi.angle - lo.angle) :=
    div_nonneg (by linarith [not_le.1 hlo]) hspan.le
  have hf₁ : (x - lo.angle) / (hi.angle - lo.angle) ≤ 1 := (div_le_one hspan).2 (by linarith)
  simp only [interpolate, Scalar.zero_real, not_le.2 hspan, if_false]
  set f := (x - lo.angle) / (hi.angle - lo.angle)
  rcases le_total lo.coefficient hi.coefficient with hc | hc
  · rw [min_eq_left hc, max_eq_right hc]
    constructor <;> nlinarith
  · rw [min_eq_right hc, max_eq_left hc]
    constructor <;> nlinarith

/-- **The documented reading stays within the coefficients.**  In exact arithmetic the reading
of a nonempty table at any `x` lies between two of its coefficients. -/
theorem piecewiseLinear_between (t : Curve ℝ) (ht : t ≠ []) (x : ℝ) :
    ∃ lo ∈ t, ∃ hi ∈ t, lo.coefficient ≤ piecewiseLinear t x ∧
      piecewiseLinear t x ≤ hi.coefficient := by
  cases t with
  | nil => exact absurd rfl ht
  | cons first rest =>
    have hlast := getLast?_getD_mem first rest
    simp only [piecewiseLinear]
    by_cases h₁ : x ≤ first.angle
    · rw [if_pos h₁]
      exact ⟨first, List.mem_cons_self, first, List.mem_cons_self, le_rfl, le_rfl⟩
    rw [if_neg h₁]
    by_cases h₃ : x ≥ ((rest.getLast?).getD first).angle
    · rw [if_pos h₃]
      exact ⟨_, hlast, _, hlast, le_rfl, le_rfl⟩
    rw [if_neg h₃]
    rcases search_cases x ((rest.getLast?).getD first).coefficient first rest h₁ with
      ⟨-, hf⟩ | ⟨lo, hi, hlo, hhi, hlo', hhi', -, hf⟩
    · rw [hf]
      exact ⟨_, hlast, _, hlast, le_rfl, le_rfl⟩
    · rw [hf]
      have hhi₂ : hi ∈ first :: rest := List.mem_cons_of_mem _ hhi
      obtain ⟨hmin, hmax⟩ := segmentValue_between hlo' hhi'
      rcases le_total lo.coefficient hi.coefficient with hc | hc
      · rw [min_eq_left hc] at hmin
        rw [max_eq_right hc] at hmax
        exact ⟨lo, hlo, hi, hhi₂, hmin, hmax⟩
      · rw [min_eq_right hc] at hmin
        rw [max_eq_left hc] at hmax
        exact ⟨hi, hhi₂, lo, hlo, hmin, hmax⟩

/-- In exact arithmetic the lookup is the documented reading at the absolute value of the
wrapped angle, for every table and every angle. -/
theorem lookup_eq_piecewiseLinear_real (t : Curve ℝ) (a : ℝ) :
    lookup t a = piecewiseLinear t |wrapDeg180 a| := by
  rw [← Scalar.abs_real]
  cases t with
  | nil => rfl
  | cons first rest =>
    simp only [lookup, piecewiseLinear, Scalar.zero_real]
    generalize Scalar.abs (wrapDeg180 a) = x
    by_cases h₁ : x ≤ first.angle
    · rw [if_pos h₁, if_pos h₁]
      by_cases h₂ : first.angle ≤ 0
      · rw [if_pos h₂]
      · rw [if_neg h₂]
        exact interpolate_origin_real h₂
    rw [if_neg h₁, if_neg h₁]
    by_cases h₃ : x ≥ ((rest.getLast?).getD first).angle
    · rw [if_pos h₃, if_pos h₃]
    rw [if_neg h₃, if_neg h₃]
    rcases search_cases x ((rest.getLast?).getD first).coefficient first rest h₁ with
      ⟨hs, hf⟩ | ⟨lo, hi, -, -, hlo, hhi, hs, hf⟩
    · rw [hs, hf]
    · rw [hs, hf]
      exact interpolate_eq_segmentValue_real hlo hhi

end Curve

open Curve

/-- **Reading a coefficient curve.**  In binary64, for every table whose first coefficient is
finite and every finite angle, the lookup is the documented piecewise-linear reading at the
absolute value of the wrapped angle, except that a first coefficient of `-0` reads as `+0` up
to the first breakpoint.  In exact arithmetic it is that reading for every table and angle, and
it lies between two coefficients of a nonempty table.  The order of the breakpoints plays no
part. -/
theorem lookup_reads_piecewise_linear_curve (t : Curve Float) (a : Float) (ha : a.isFinite = true)
    (hc : ∀ b ∈ t.head?, b.coefficient.isFinite = true) (u : Curve ℝ) (r : ℝ) :
    (lookup t a = piecewiseLinear t (Scalar.abs (wrapDeg180 a)) ∨
      (piecewiseLinear t (Scalar.abs (wrapDeg180 a)) = -0 ∧ lookup t a = 0)) ∧
    lookup u r = piecewiseLinear u |wrapDeg180 r| ∧
    (u ≠ [] → ∃ lo ∈ u, ∃ hi ∈ u, lo.coefficient ≤ lookup u r ∧ lookup u r ≤ hi.coefficient) := by
  refine ⟨lookup_eq_piecewiseLinear_float ha hc, lookup_eq_piecewiseLinear_real u r, fun hu => ?_⟩
  rw [lookup_eq_piecewiseLinear_real]
  exact piecewiseLinear_between u hu _

/-- The lift curve at 15 degrees is read off its segment from 10 to 20 degrees. -/
theorem lift_reads_between_breakpoints :
    lookup (lift : Curve Float) 15 = piecewiseLinear lift (Scalar.abs (wrapDeg180 15)) ∨
      (piecewiseLinear (lift : Curve Float) (Scalar.abs (wrapDeg180 15)) = -0 ∧
        lookup (lift : Curve Float) 15 = 0) :=
  (lookup_reads_piecewise_linear_curve lift 15 (by decide +kernel) (by decide +kernel) [] 0).1

/-- An infinite first coefficient is not read back on the flat first segment: the line from
`(0, +∞)` to `(10, +∞)` multiplies the slope by `+∞ - +∞`, which is NaN. -/
theorem infinite_first_coefficient_reads_nan :
    (lookup [(⟨10, 1 / 0⟩ : Breakpoint Float)] 5).isNaN = true ∧
      (piecewiseLinear [(⟨10, 1 / 0⟩ : Breakpoint Float)] (Scalar.abs (wrapDeg180 5))).isInf =
        true := by
  constructor <;> decide +kernel

end SailSim
