import Mathlib
import SailSim.Sail.Curve

/-!
# The dynamics in exact arithmetic

`Scalar ℝ` reads every operation of the dynamics exactly: the field operations and the order
of the real numbers, `Real.sqrt`, `Real.sin`, `Real.cos`, `Real.arctan` and `Real.arcsin`,
the angle `atan2 y x` as the argument of `x + yi` in `(-π, π]`, and the remainder of the
division truncated toward zero.

Two readers of angles have a branch cut, and every mirror symmetry of the dynamics turns on
them:

* `atan2` is odd in its first argument off the cut `y = 0, x < 0`, where it is `π` on both
  sides (`atan2_neg`); its sine and cosine are odd and even everywhere (`sin_atan2_neg`,
  `cos_atan2_neg`), and in degrees it is odd up to a whole turn (`degrees_atan2_neg`);
* `Curve.wrapDeg180` lands in `[-180, 180]` a whole number of turns from its argument
  (`wrapDeg180_mem`, `exists_wrapDeg180_eq`), so it is odd on `(-540, 540)`
  (`wrapDeg180_neg`) and, off `±180`, takes angles a whole number of turns from `-d` to
  `-wrapDeg180 d` (`wrapDeg180_eq_neg`).
-/

namespace SailSim

/-- The quotient `q` rounded toward zero. -/
noncomputable def truncToward (q : ℝ) : ℤ := if 0 ≤ q then ⌊q⌋ else ⌈q⌉

theorem truncToward_spec (q : ℝ) : |q - truncToward q| < 1 ∧ (0 ≤ q → (truncToward q : ℝ) ≤ q) := by
  unfold truncToward
  split
  · rename_i hq
    refine ⟨abs_lt.2 ⟨?_, ?_⟩, fun _ => Int.floor_le q⟩
    · linarith [Int.floor_le q]
    · linarith [Int.lt_floor_add_one q]
  · refine ⟨abs_lt.2 ⟨?_, ?_⟩, fun h => absurd h ‹_›⟩
    · linarith [Int.ceil_lt_add_one q]
    · linarith [Int.le_ceil q]

/-- Exact arithmetic. -/
noncomputable instance instScalarReal : Scalar ℝ where
  toAdd := inferInstance
  toSub := inferInstance
  toMul := inferInstance
  toDiv := inferInstance
  toNeg := inferInstance
  toLT := inferInstance
  toLE := inferInstance
  ofNat n := n
  ofScientific m neg e := OfScientific.ofScientific m neg e
  decLt := inferInstance
  decLe := inferInstance
  beq a b := decide (a = b)
  abs x := |x|
  max := max
  min := min
  sqrt := Real.sqrt
  sin := Real.sin
  cos := Real.cos
  atan := Real.arctan
  atan2 y x := Complex.arg ⟨x, y⟩
  asin := Real.arcsin
  truncRem x y := x - y * truncToward (x / y)
  pi := Real.pi
  nearestWord x :=
    let n : ℤ := if x < 0 then -round (-x) else round x
    if -2 ^ 63 ≤ n ∧ n < 2 ^ 64 then UInt64.ofInt n else 2 ^ 63

namespace Scalar

variable (x y : ℝ)

theorem ofNat_real (n : ℕ) : (Scalar.ofNat n : ℝ) = n := rfl

-- The numerals of the dynamics are casts of natural numbers; these put them in the form the
-- library's lemmas and `norm_num` expect.
@[simp] theorem zero_real : (@OfNat.ofNat ℝ 0 instOfNatScalar : ℝ) = 0 := Nat.cast_zero

@[simp] theorem one_real : (@OfNat.ofNat ℝ 1 instOfNatScalar : ℝ) = 1 := Nat.cast_one

@[simp] theorem numeral_real (n : ℕ) [n.AtLeastTwo] :
    (@OfNat.ofNat ℝ n instOfNatScalar : ℝ) = OfNat.ofNat n :=
  Nat.cast_ofNat

theorem ofScientific_real (m : ℕ) (s : Bool) (e : ℕ) :
    (@OfScientific.ofScientific ℝ instOfScientificScalar m s e) = OfScientific.ofScientific m s e :=
  rfl
theorem beq_real : Scalar.beq x y = decide (x = y) := rfl
theorem abs_real : Scalar.abs x = |x| := rfl
theorem max_real : Scalar.max x y = Max.max x y := rfl
theorem min_real : Scalar.min x y = Min.min x y := rfl
theorem sqrt_real : Scalar.sqrt x = Real.sqrt x := rfl
theorem sin_real : Scalar.sin x = Real.sin x := rfl
theorem cos_real : Scalar.cos x = Real.cos x := rfl
theorem atan_real : Scalar.atan x = Real.arctan x := rfl
theorem atan2_real : Scalar.atan2 y x = Complex.arg ⟨x, y⟩ := rfl
theorem asin_real : Scalar.asin x = Real.arcsin x := rfl
theorem truncRem_real : Scalar.truncRem x y = x - y * truncToward (x / y) := rfl
theorem pi_real : (Scalar.pi : ℝ) = Real.pi := rfl

theorem sin_neg : Scalar.sin (-x) = -Scalar.sin x := Real.sin_neg x

theorem cos_neg : Scalar.cos (-x) = Scalar.cos x := Real.cos_neg x

theorem radians_neg : Scalar.radians (-x) = -Scalar.radians x := by
  unfold radians
  ring

theorem degrees_neg : Scalar.degrees (-x) = -Scalar.degrees x := by
  unfold degrees
  ring

theorem signum_neg_of_ne (h : x ≠ 0) : Scalar.signum (-x) = -Scalar.signum x := by
  unfold signum
  rcases lt_or_gt_of_ne h with hx | hx
  · simp [hx, not_lt.2 (le_of_lt (neg_pos.2 hx))]
  · simp [hx, not_lt.2 (le_of_lt hx)]

theorem min_max_neg (lo : ℝ) (hlo : 0 ≤ lo) :
    Scalar.min (Scalar.max (-x) (-lo)) lo = -Scalar.min (Scalar.max x (-lo)) lo := by
  simp only [min_real, max_real, max_def, min_def]
  split_ifs <;> linarith

theorem clamp_neg (lo : ℝ) (hlo : 0 ≤ lo) :
    Scalar.clamp (-x) (-lo) lo = -Scalar.clamp x (-lo) lo :=
  min_max_neg x lo hlo

/-- A value clamped into `[lo, hi]`, with `lo` no lower than `-hi`, lies within `hi` of zero. -/
theorem abs_clamp_le {lo hi : ℝ} (hlo : -hi ≤ lo) (hhi : 0 ≤ hi) : |Scalar.clamp x lo hi| ≤ hi := by
  simp only [clamp, max_real, min_real]
  rw [abs_le]
  exact ⟨le_min (le_trans hlo (le_max_right _ _)) (by linarith), min_le_right _ _⟩

/-! ## The angle of a point -/

/-- The mirrored point is the complex conjugate, whose argument is the negated argument except
on the cut, where both are `π`. -/
theorem atan2_neg_eq :
    Scalar.atan2 (-y) x = if Scalar.atan2 y x = Real.pi then Real.pi else -Scalar.atan2 y x := by
  have hconj : (⟨x, -y⟩ : ℂ) = (starRingEnd ℂ) ⟨x, y⟩ := by
    apply Complex.ext <;> simp
  simp only [atan2_real]
  rw [hconj, Complex.arg_conj]

theorem atan2_neg (h : Scalar.atan2 y x ≠ Real.pi) : Scalar.atan2 (-y) x = -Scalar.atan2 y x := by
  rw [atan2_neg_eq, if_neg h]

/-- Mirroring the point moves its angle to the negated angle, or on the cut leaves it at `π`,
one whole turn away. -/
theorem exists_atan2_neg :
    ∃ k : ℤ, Scalar.atan2 (-y) x = -Scalar.atan2 y x + k * (2 * Real.pi) := by
  by_cases h : Scalar.atan2 y x = Real.pi
  · refine ⟨1, ?_⟩
    rw [atan2_neg_eq, if_pos h, h]
    push_cast
    ring
  · exact ⟨0, by rw [atan2_neg x y h]; simp⟩

theorem sin_atan2_neg : Scalar.sin (Scalar.atan2 (-y) x) = -Scalar.sin (Scalar.atan2 y x) := by
  obtain ⟨k, hk⟩ := exists_atan2_neg x y
  rw [hk, sin_real, sin_real, Real.sin_add_int_mul_two_pi, Real.sin_neg]

theorem cos_atan2_neg : Scalar.cos (Scalar.atan2 (-y) x) = Scalar.cos (Scalar.atan2 y x) := by
  obtain ⟨k, hk⟩ := exists_atan2_neg x y
  rw [hk, cos_real, cos_real, Real.cos_add_int_mul_two_pi, Real.cos_neg]

theorem degrees_atan2_neg :
    ∃ k : ℤ, Scalar.degrees (Scalar.atan2 (-y) x) = -Scalar.degrees (Scalar.atan2 y x) + 360 * k := by
  obtain ⟨k, hk⟩ := exists_atan2_neg x y
  refine ⟨k, ?_⟩
  rw [hk]
  unfold degrees
  rw [pi_real]
  field_simp
  ring

end Scalar

/-! ## Angles wrapped into `[-180, 180]` -/

namespace Curve

variable (d : ℝ)

theorem wrapDeg180_of_mem (h : -180 ≤ d ∧ d ≤ 180) : wrapDeg180 d = d := by
  simp [wrapDeg180, h.1, h.2]

theorem wrapDeg180_of_not_mem (h : ¬(-180 ≤ d ∧ d ≤ 180)) :
    wrapDeg180 d =
      (if Scalar.truncRem (d + 180) 360 < 0 then Scalar.truncRem (d + 180) 360 + 360
        else Scalar.truncRem (d + 180) 360) - 180 := by
  have : ¬(-180 ≤ d ∧ d ≤ 180) := h
  simp only [wrapDeg180, ge_iff_le, Bool.and_eq_true, decide_eq_true_eq] at this ⊢
  rw [if_neg this]
  simp only [Scalar.zero_real]

/-- Out of `[-180, 180]` the wrap is the remainder of `d + 180` by a whole turn, brought into
`[0, 360)`, less `180`: it lands in `[-180, 180)`. -/
theorem wrapDeg180_out (h : ¬(-180 ≤ d ∧ d ≤ 180)) :
    -180 ≤ wrapDeg180 d ∧ wrapDeg180 d < 180 ∧ ∃ k : ℤ, wrapDeg180 d = d + 360 * k := by
  rw [wrapDeg180_of_not_mem d h, Scalar.truncRem_real]
  obtain ⟨hlt, -⟩ := truncToward_spec ((d + 180) / 360)
  set t := truncToward ((d + 180) / 360)
  have hw : |(d + 180) - 360 * t| < 360 := by
    have : (d + 180) - 360 * t = 360 * ((d + 180) / 360 - t) := by ring
    rw [this, abs_mul, abs_of_pos (by norm_num : (0 : ℝ) < 360)]
    linarith
  obtain ⟨hlo, hhi⟩ := abs_lt.1 hw
  split
  · exact ⟨by linarith, by linarith, ⟨1 - t, by push_cast; ring⟩⟩
  · rename_i hneg
    push Not at hneg
    exact ⟨by linarith, by linarith, ⟨-t, by push_cast; ring⟩⟩

theorem wrapDeg180_mem : -180 ≤ wrapDeg180 d ∧ wrapDeg180 d ≤ 180 := by
  by_cases h : -180 ≤ d ∧ d ≤ 180
  · rw [wrapDeg180_of_mem d h]
    exact h
  · obtain ⟨hlo, hhi, -⟩ := wrapDeg180_out d h
    exact ⟨hlo, hhi.le⟩

theorem exists_wrapDeg180_eq : ∃ k : ℤ, wrapDeg180 d = d + 360 * k := by
  by_cases h : -180 ≤ d ∧ d ≤ 180
  · exact ⟨0, by rw [wrapDeg180_of_mem d h]; simp⟩
  · exact (wrapDeg180_out d h).2.2

/-- Two angles a whole number of turns apart, one strictly inside `(-180, 180)` and the other
in `[-180, 180]`, are equal. -/
theorem eq_of_eq_add_turns {a b : ℝ} (ha : -180 < a ∧ a < 180) (hb : -180 ≤ b ∧ b ≤ 180)
    {k : ℤ} (hk : b = a + 360 * k) : b = a := by
  have hk1 : (k : ℝ) < 1 := by linarith
  have hk2 : (-1 : ℝ) < k := by linarith
  have : k = 0 := by
    have h1 : k < 1 := by exact_mod_cast hk1
    have h2 : -1 < k := by exact_mod_cast hk2
    omega
  rw [hk, this]
  simp

/-- Off `±180`, an angle a whole number of turns from `-d` wraps to `-wrapDeg180 d`. -/
theorem wrapDeg180_eq_neg {d d' : ℝ} (hk : ∃ k : ℤ, d' = -d + 360 * k)
    (h₁ : wrapDeg180 d ≠ 180) (h₂ : wrapDeg180 d ≠ -180) : wrapDeg180 d' = -wrapDeg180 d := by
  obtain ⟨k, hk⟩ := hk
  obtain ⟨j, hj⟩ := exists_wrapDeg180_eq d
  obtain ⟨j', hj'⟩ := exists_wrapDeg180_eq d'
  obtain ⟨hlo, hhi⟩ := wrapDeg180_mem d
  have hin : -180 < -wrapDeg180 d ∧ -wrapDeg180 d < 180 :=
    ⟨by linarith [lt_of_le_of_ne hhi h₁], by linarith [lt_of_le_of_ne' hlo h₂]⟩
  refine eq_of_eq_add_turns hin (wrapDeg180_mem d') (k := k + j + j') ?_
  rw [hj', hk, hj]
  push_cast
  ring

/-- The wrap is odd on `(-540, 540)`. -/
theorem wrapDeg180_neg (h : |d| < 540) : wrapDeg180 (-d) = -wrapDeg180 d := by
  by_cases hin : -180 ≤ d ∧ d ≤ 180
  · rw [wrapDeg180_of_mem d hin, wrapDeg180_of_mem (-d) ⟨by linarith, by linarith⟩]
  · obtain ⟨hlo, hhi, k, hk⟩ := wrapDeg180_out d hin
    refine wrapDeg180_eq_neg ⟨0, by simp⟩ hhi.ne ?_
    intro hm
    obtain ⟨h1, h2⟩ := abs_lt.1 h
    have hk1 : (k : ℝ) < 1 := by linarith
    have hk2 : (-2 : ℝ) < k := by linarith
    have : k = 0 ∨ k = -1 := by
      have h1 : k < 1 := by exact_mod_cast hk1
      have h2 : -2 < k := by exact_mod_cast hk2
      omega
    rcases this with rfl | rfl
    · exact hin ⟨by push_cast at hk; linarith, by push_cast at hk; linarith⟩
    · exact hin ⟨by push_cast at hk; linarith, by push_cast at hk; linarith⟩

end Curve

end SailSim
