import SailSim.Proofs.Binary64.Remainder
import SailSim.Proofs.Exact

/-!
# The angle wrap and the symmetry of the curves

`Curve.lookup` reads a curve at the absolute value of `Curve.wrapDeg180` of the angle, so a curve
is symmetric exactly as far as the wrap is odd up to sign.

* `Curve.wrapDeg180_mem_of_isFinite` : in binary64 every finite angle wraps into `[-180, 180]`,
  whatever the shift by `180`, the remainder and the correction by `360` round;
* `Curve.lookup_neg_of_mem` : in binary64 the wrap leaves `[-180, 180]` alone, so every curve
  is symmetric there;
* `Curve.lookup_neg_exact` : in exact arithmetic every curve is symmetric everywhere, the seam
  `±180` included (`abs_wrapDeg180_neg`);
* **`angle_wrap_bounded_and_exactly_symmetric`** assembles these.

Out of `[-180, 180]` the binary64 wrap is not a reduction by whole turns: `d + 180` rounds once
`d` is large, and it rounds differently for `d` and `-d`.  At `±1e17` the wrap gives `-84` and
`76`, where whole turns give `∓80`, and the lift curve reads `0.12` and `0.28`
(`far_angle_breaks_lookup_symmetry`).
-/

namespace SailSim

open Binary64 Float.Model Float.Model.UnpackedFloat

namespace Curve

/-! ### The constants of the wrap -/

theorem unpack_180 :
    (@OfNat.ofNat Float 180 Scalar.instOfNatScalar).toModel.unpack =
      .finite .positive 6333186975989760 (-45) (by decide) := by
  apply eq_finite_of_positiveParts
  decide +kernel

theorem unpack_360 :
    (@OfNat.ofNat Float 360 Scalar.instOfNatScalar).toModel.unpack =
      .finite .positive 6333186975989760 (-44) (by decide) := by
  apply eq_finite_of_positiveParts
  decide +kernel

theorem unpack_neg_180 :
    (-(@OfNat.ofNat Float 180 Scalar.instOfNatScalar)).toModel.unpack =
      .finite .negative 6333186975989760 (-45) (by decide) := by
  rw [unpack_neg, unpack_180]
  exact unpack_pack_canonical .negative (by decide) ⟨by decide, by decide, .inl (by decide)⟩ (by decide)

theorem neg_180_eq : (-180 : Float) = -(@OfNat.ofNat Float 180 Scalar.instOfNatScalar) := rfl

theorem ofNat_180_eq : (180 : Float) = @OfNat.ofNat Float 180 Scalar.instOfNatScalar := rfl


/-! ### The wrap in binary64 -/

/-- Every finite angle wraps into `[-180, 180]` in binary64 too: the shifted angle stays
finite, its reduction by a turn lies in `[0, 360]`, and taking `180` back off is exact
enough to stay within `180` ticks-wise. -/
theorem wrapDeg180_mem_of_isFinite {d : Float} (hd : d.isFinite = true) :
    -180 ≤ wrapDeg180 d ∧ wrapDeg180 d ≤ 180 := by
  unfold wrapDeg180
  split
  · rename_i h
    simp only [ge_iff_le, Bool.and_eq_true, decide_eq_true_eq] at h
    exact h
  · rw [neg_180_eq, ofNat_180_eq]
    have hcu := unpack_180
    have hncu := unpack_neg_180
    have hpu := unpack_360
    generalize @OfNat.ofNat Float 360 Scalar.instOfNatScalar = p at hpu ⊢
    generalize @OfNat.ofNat Float 180 Scalar.instOfNatScalar = c at hcu hncu ⊢
    show -c ≤ (if truncRem (d + c) p < 0 then truncRem (d + c) p + p else truncRem (d + c) p) - c ∧
      (if truncRem (d + c) p < 0 then truncRem (d + c) p + p else truncRem (d + c) p) - c ≤ c
    have hcan : Canonical 6333186975989760 (-45) := ⟨by decide, by decide, .inl (by decide)⟩
    have h360 := ticks_succ 6333186975989760 (show (-1074 : Int) ≤ -45 by decide)
    rw [show (-45 : Int) + 1 = -44 by norm_num] at h360
    have hTlt := ticks_lt_two_pow hcan 2044 (by decide)
    have hcf := isFinite_of_unpack_finite hcu
    have hncf := isFinite_of_unpack_finite hncu
    have hsc : signedTicks c.toModel.unpack = ticks 6333186975989760 (-45) := by
      rw [hcu, signedTicks_finite]; rfl
    have hsnc : signedTicks (-c).toModel.unpack = -(ticks 6333186975989760 (-45) : Int) := by
      rw [hncu, signedTicks_finite]; rfl
    have hrep := representable_ticks hcan
    clear hcu hncu
    generalize ticks 6333186975989760 (-45) = T at h360 hTlt hsc hsnc hrep
    -- the shifted angle is finite
    have ht : (d + c).isFinite = true := by
      have hr := add_roundsTo hd hcf
      rw [hsc] at hr
      apply hr.isFinite
      have := natAbs_signedTicks_le hd
      generalize (2 : Nat) ^ 2044 = P at *
      omega
    obtain ⟨hwf, hw0, hw1⟩ := reduce_mem ht hpu
    rw [h360] at hw1
    generalize (if truncRem (d + c) p < 0 then truncRem (d + c) p + p else truncRem (d + c) p) = w
      at hwf hw0 hw1 ⊢
    -- taking the half turn back off
    have hr := sub_roundsTo hwf hcf
    rw [hsc] at hr
    have hv : (signedTicks w.toModel.unpack - T).natAbs ≤ T := by omega
    have hresf : (w - c).isFinite = true := by
      apply hr.isFinite
      clear hr
      generalize (2 : Nat) ^ 2044 = P at *
      omega
    obtain ⟨hle, -, -⟩ := hr.signedTicks_le hrep hv
    constructor
    · rw [le_iff_signedTicks hncf hresf, hsnc]
      omega
    · rw [le_iff_signedTicks hresf hcf, hsc]
      omega

theorem wrapDeg180_of_mem_float {d : Float} (h : -180 ≤ d ∧ d ≤ 180) : wrapDeg180 d = d := by
  unfold wrapDeg180
  rw [if_pos]
  simp only [ge_iff_le, Bool.and_eq_true, decide_eq_true_eq]
  exact h

/-- In binary64 every curve is symmetric on `[-180, 180]`, where the wrap changes nothing. -/
theorem lookup_neg_of_mem {d : Float} (t : Curve Float) (h : -180 ≤ d ∧ d ≤ 180) :
    lookup t (-d) = lookup t d := by
  have hneg : -180 ≤ -d ∧ -d ≤ 180 := by
    refine ⟨(neg_le_neg_iff_float 180 d).2 h.2, ?_⟩
    have h₁ := (neg_le_neg_iff_float d (-180)).2 h.1
    rwa [float_neg_neg] at h₁
  have habs : Scalar.abs (wrapDeg180 (-d)) = Scalar.abs (wrapDeg180 d) := by
    rw [wrapDeg180_of_mem_float hneg, wrapDeg180_of_mem_float h]
    exact float_abs_neg d
  unfold lookup
  rw [habs]

/-! ### The wrap in exact arithmetic -/

/-- An angle in `[-180, 180]` a whole number of turns from the seam is on the seam. -/
theorem abs_eq_180_of_eq_add_turns {a b : ℝ} (ha : |a| = 180) (hb : -180 ≤ b ∧ b ≤ 180) {k : ℤ}
    (hk : b = a + 360 * k) : |b| = 180 := by
  rcases (abs_eq (by norm_num : (0 : ℝ) ≤ 180)).1 ha with rfl | rfl
  · -- from `180` only `k = 0` and `k = -1` stay in range
    have hk₁ : k ≤ 0 := by exact_mod_cast (show (k : ℝ) ≤ 0 by linarith)
    have hk₂ : -1 ≤ k := by exact_mod_cast (show (-1 : ℝ) ≤ k by linarith)
    obtain rfl | rfl : k = 0 ∨ k = -1 := by omega
    all_goals rw [hk]; norm_num
  · have hk₁ : k ≤ 1 := by exact_mod_cast (show (k : ℝ) ≤ 1 by linarith)
    have hk₂ : 0 ≤ k := by exact_mod_cast (show (0 : ℝ) ≤ k by linarith)
    obtain rfl | rfl : k = 0 ∨ k = 1 := by omega
    all_goals rw [hk]; norm_num

/-- The wrap is odd up to sign everywhere: off the seam it is odd (`wrapDeg180_eq_neg`), and an
angle on the seam has its negation on the seam too. -/
theorem abs_wrapDeg180_neg (a : ℝ) : |wrapDeg180 (-a)| = |wrapDeg180 a| := by
  obtain ⟨hlo, hhi⟩ := wrapDeg180_mem a
  by_cases hs : |wrapDeg180 a| < 180
  · have h₁ : wrapDeg180 a ≠ 180 := fun h => by rw [h] at hs; norm_num at hs
    have h₂ : wrapDeg180 a ≠ -180 := fun h => by rw [h] at hs; norm_num at hs
    rw [wrapDeg180_eq_neg ⟨0, by simp⟩ h₁ h₂, abs_neg]
  · have hseam : |wrapDeg180 a| = 180 := le_antisymm (abs_le.2 ⟨hlo, hhi⟩) (not_lt.1 hs)
    obtain ⟨j, hj⟩ := exists_wrapDeg180_eq a
    obtain ⟨j', hj'⟩ := exists_wrapDeg180_eq (-a)
    have hturns : wrapDeg180 (-a) = -wrapDeg180 a + 360 * ((j + j' : ℤ) : ℝ) := by
      rw [hj', hj]
      push_cast
      ring
    rw [abs_eq_180_of_eq_add_turns (by rw [abs_neg]; exact hseam) (wrapDeg180_mem (-a)) hturns,
      hseam]

/-- In exact arithmetic every curve is symmetric. -/
theorem lookup_neg_exact (t : Curve ℝ) (a : ℝ) : lookup t (-a) = lookup t a := by
  have habs : Scalar.abs (wrapDeg180 (-a)) = Scalar.abs (wrapDeg180 a) := abs_wrapDeg180_neg a
  unfold lookup
  rw [habs]

end Curve

open Curve

/-- **The angle wrap.**  In binary64 every finite angle wraps into `[-180, 180]`, and an angle
already there is left alone, so every curve is symmetric on `[-180, 180]`.  In exact arithmetic
the wrap is also a reduction by whole turns, odd off the seam, and every curve is symmetric
everywhere. -/
theorem angle_wrap_bounded_and_exactly_symmetric (d : Float) (hd : d.isFinite = true)
    (t : Curve Float) (a : ℝ) (u : Curve ℝ) :
    (-180 ≤ wrapDeg180 d ∧ wrapDeg180 d ≤ 180) ∧
      (-180 ≤ d ∧ d ≤ 180 → wrapDeg180 d = d ∧ lookup t (-d) = lookup t d) ∧
      ((-180 ≤ wrapDeg180 a ∧ wrapDeg180 a ≤ 180) ∧ (∃ k : ℤ, wrapDeg180 a = a + 360 * k) ∧
        (|wrapDeg180 a| < 180 → wrapDeg180 (-a) = -wrapDeg180 a) ∧ lookup u (-a) = lookup u a) := by
  refine ⟨wrapDeg180_mem_of_isFinite hd, fun h => ⟨wrapDeg180_of_mem_float h, lookup_neg_of_mem t h⟩,
    wrapDeg180_mem a, exists_wrapDeg180_eq a, fun hs => ?_, lookup_neg_exact u a⟩
  obtain ⟨hlo, hhi⟩ := abs_lt.1 hs
  exact wrapDeg180_eq_neg ⟨0, by simp⟩ hhi.ne (ne_of_gt hlo)

/-- The lift curve reads the same at `±90` degrees in binary64. -/
theorem right_angle_lift_symmetric : lookup (lift : Curve Float) (-90) = lookup lift 90 :=
  ((angle_wrap_bounded_and_exactly_symmetric 90 (by decide +kernel) lift 0 []).2.1
    ⟨by decide +kernel, by decide +kernel⟩).2

/-- Far out the binary64 wrap is not odd and the lift curve not symmetric: `1e17 + 180` and
`-1e17 + 180` are both rounded down by `4` to multiples of `16`, so both wrapped angles come out
`4` below their reductions by whole turns, `∓80`. -/
theorem far_angle_breaks_lookup_symmetry :
    (wrapDeg180 (1e17 : Float) == -84) = true ∧ (wrapDeg180 (-1e17 : Float) == 76) = true ∧
      (lookup (lift : Curve Float) (-1e17) == lookup lift 1e17) = false := by
  refine ⟨?_, ?_, ?_⟩ <;> decide +kernel

end SailSim
