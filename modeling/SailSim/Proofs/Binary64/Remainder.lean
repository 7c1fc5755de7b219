import SailSim.Proofs.Binary64.Nearest

/-!
# The truncated remainder in binary64

`Binary64.truncRem` computes the remainder exactly, on the integer views of its arguments, and
converts the result back with `Binary64.ofSigned`.  Main results:

* `Binary64.truncRem_finite` : the remainder of a finite nonzero number by a finite nonzero one
  is a zero or a finite number of the first's sign whose ticks are the remainder of theirs; the
  remainder of a zero is that zero (`truncRem_zero`);
* **`Binary64.reduce_mem`** : the remainder of a finite number by a finite positive period `y`,
  moved up by `y` when it is negative, is a finite number in `[0, y]`, so never NaN and never
  below zero (`zero_le_reduce`).  Both angle reductions of the model, `WaveState.wrapTwoPi` and
  `Curve.wrapDeg180`, start this way.
-/

namespace SailSim.Binary64

open Float.Model Float.Model.UnpackedFloat

/-! ### Signed magnitudes -/

/-- Reading `± r · 2^q` back: a zero when `r = 0`, and otherwise, for `r` of at most 53 bits
and `q` in the range of binary64, a finite number of that sign with the same ticks. -/
theorem unpack_ofSigned_zero (neg : Bool) (q : Int) :
    (ofSigned neg 0 q).toModel.unpack = .zero (if neg then .negative else .positive) := by
  have hpos : (ofMagnitude 0 q).toModel.unpack = .zero .positive := by
    simp only [ofMagnitude, round_zero]
    exact unpack_pack_zero _
  cases neg
  · exact hpos
  · simp only [ofSigned, if_true]
    rw [unpack_neg, hpos]
    exact unpack_pack_zero _

theorem unpack_ofSigned {r : Nat} {q : Int} (neg : Bool) (hr : 0 < r) (hr' : r < 2 ^ 53)
    (hq : -1074 ≤ q) (hq' : q ≤ 971) :
    ∃ M T hM, (ofSigned neg r q).toModel.unpack =
      .finite (if neg then .negative else .positive) M T hM ∧ Canonical M T ∧ ticks M T = ticks r q := by
  obtain ⟨M, T, hM, hround, hc, hT, hticks⟩ := round_exact .positive hr hr' hq
  have hpos : (ofMagnitude r q).toModel.unpack = .finite .positive M T hM := by
    simp only [ofMagnitude, hround]
    exact unpack_pack_canonical _ hM hc (by omega)
  refine ⟨M, T, hM, ?_, hc, hticks⟩
  cases neg
  · exact hpos
  · simp only [ofSigned, if_true]
    rw [unpack_neg, hpos]
    exact unpack_pack_canonical _ hM hc (by omega)

/-! ### The remainder -/

theorem truncRem_eq {x y : Float} {sy : Sign} {my : Nat} {ey : Int} {hy : 0 < my}
    (hx : x.isFinite = true) (hyu : y.toModel.unpack = .finite sy my ey hy) :
    truncRem x y = ofSigned (signBit x) (remMagnitude x y).1 (remMagnitude x y).2 := by
  have hxu : x.toModel.unpack.isFinite = true := hx
  have hy0 : (y == 0) = false := by
    rw [Bool.eq_false_iff]
    intro h
    obtain ⟨s, hs⟩ := (beq_zero_iff y).1 h
    rw [hyu] at hs
    cases hs
  have hxinf : x.isInf = false := by
    show x.toModel.unpack.isInf = false
    revert hxu; cases x.toModel.unpack <;> simp [UnpackedFloat.isFinite, UnpackedFloat.isInf]
  have hxnan : x.isNaN = false := isNaN_of_isFinite hx
  have hynan : y.isNaN = false := by show y.toModel.unpack.isNaN = false; rw [hyu]; rfl
  have hyinf : y.isInf = false := by show y.toModel.unpack.isInf = false; rw [hyu]; rfl
  unfold truncRem
  simp only [hy0, hxinf, hxnan, hynan, hyinf, Bool.false_or, Bool.false_eq_true, if_false]

/-- The remainder of a zero by a finite nonzero number is that zero. -/
theorem truncRem_zero {x y : Float} {sx sy : Sign} {my : Nat} {ey : Int} {hy : 0 < my}
    (hxu : x.toModel.unpack = .zero sx) (hyu : y.toModel.unpack = .finite sy my ey hy) :
    (truncRem x y).toModel.unpack = .zero sx := by
  obtain ⟨hmx, hsx⟩ := magnitude_of_unpack_zero hxu
  rw [truncRem_eq (by show x.toModel.unpack.isFinite = true; rw [hxu]; rfl) hyu, ← hsx]
  simp only [remMagnitude, hmx, Nat.zero_mul, Nat.zero_mod]
  exact unpack_ofSigned_zero _ _

/-- The remainder of a finite nonzero number by another is computed exactly: it is a zero or a
finite number of the first's sign, and its ticks are the remainder of theirs. -/
theorem truncRem_finite {x y : Float} {sx sy : Sign} {mx my : Nat} {ex ey : Int} {hx : 0 < mx}
    {hy : 0 < my} (hxu : x.toModel.unpack = .finite sx mx ex hx)
    (hyu : y.toModel.unpack = .finite sy my ey hy) :
    (truncRem x y).toModel.unpack = .zero sx ∨
      ∃ M T hM, (truncRem x y).toModel.unpack = .finite sx M T hM ∧
        ticks M T = ticks mx ex % ticks my ey := by
  obtain ⟨hmx, hsx⟩ := magnitude_of_unpack hxu
  obtain ⟨hmy, -⟩ := magnitude_of_unpack hyu
  obtain ⟨⟨hxc, hxlo, -⟩, hxhi⟩ := unpack_canonical hxu
  obtain ⟨⟨hyc, hylo, -⟩, hyhi⟩ := unpack_canonical hyu
  rw [truncRem_eq (by show x.toModel.unpack.isFinite = true; rw [hxu]; rfl) hyu, ← hsx]
  simp only [remMagnitude, hmx, hmy]
  -- both magnitudes are brought to the smaller exponent; the remainder fits in 53 bits since
  -- one of the two is not shifted at all
  set q := Min.min ex ey
  have hq : -1074 ≤ q := le_min hxlo hylo
  have ha : ticks (mx * Nat.pow 2 (ex - q).toNat) q = ticks mx ex := by
    rw [← ticks_shiftLeft mx hq (min_le_left ex ey), Nat.shiftLeft_eq]; rfl
  have hb : ticks (my * Nat.pow 2 (ey - q).toNat) q = ticks my ey := by
    rw [← ticks_shiftLeft my hq (min_le_right ex ey), Nat.shiftLeft_eq]; rfl
  have hbpos : 0 < my * Nat.pow 2 (ey - q).toNat := Nat.mul_pos hy (Nat.two_pow_pos _)
  have hr53 : (mx * Nat.pow 2 (ex - q).toNat) % (my * Nat.pow 2 (ey - q).toNat) < 2 ^ 53 := by
    rcases le_total ex ey with hle | hle
    · have : (ex - q).toNat = 0 := by omega
      rw [this]
      exact lt_of_le_of_lt (Nat.mod_le _ _) (by simpa using hxc)
    · have : (ey - q).toNat = 0 := by omega
      rw [this]
      exact lt_of_lt_of_le (Nat.mod_lt _ (by simpa using hy)) (by simpa using hyc.le)
  have hticks : ticks ((mx * Nat.pow 2 (ex - q).toNat) % (my * Nat.pow 2 (ey - q).toNat)) q =
      ticks mx ex % ticks my ey := by
    rw [← ha, ← hb]
    exact (Nat.mul_mod_mul_right _ _ _).symm
  rcases Nat.eq_zero_or_pos ((mx * Nat.pow 2 (ex - q).toNat) % (my * Nat.pow 2 (ey - q).toNat))
    with hr | hr
  · left
    rw [hr]
    exact unpack_ofSigned_zero _ _
  · right
    obtain ⟨M, T, hM, hu, -, hMT⟩ :=
      unpack_ofSigned (signBit x) hr hr53 hq (le_trans (min_le_right ex ey) hyhi)
    exact ⟨M, T, hM, hu, hMT.trans hticks⟩

/-- The remainder of a finite number by a finite nonzero number is a zero or a finite number
below the divisor in magnitude. -/
theorem truncRem_lt {x y : Float} {sy : Sign} {my : Nat} {ey : Int} {hy : 0 < my}
    (hx : x.isFinite = true) (hyu : y.toModel.unpack = .finite sy my ey hy) :
    (∃ t, (truncRem x y).toModel.unpack = .zero t) ∨
      ∃ t M T hM, (truncRem x y).toModel.unpack = .finite t M T hM ∧ ticks M T < ticks my ey := by
  have hxu : x.toModel.unpack.isFinite = true := hx
  have hpos : 0 < ticks my ey := Nat.mul_pos hy (Nat.two_pow_pos _)
  cases hu : x.toModel.unpack with
  | zero sx => exact .inl ⟨sx, truncRem_zero hu hyu⟩
  | finite sx mx ex hmx =>
    rcases truncRem_finite hu hyu with h | ⟨M, T, hM, h, hticks⟩
    · exact .inl ⟨sx, h⟩
    · exact .inr ⟨sx, M, T, hM, h, hticks ▸ Nat.mod_lt _ hpos⟩
  | infinity s => rw [hu] at hxu; cases hxu
  | notANumber => rw [hu] at hxu; cases hxu

/-! ### Reduction by a period -/

/-- **Reduction by a period.**  The remainder of a finite number by a finite positive number
`y`, moved up by `y` when it is negative, is a finite number in `[0, y]`. -/
theorem reduce_mem {x y : Float} {my : Nat} {ey : Int} {hy : 0 < my}
    (hx : x.isFinite = true) (hyu : y.toModel.unpack = .finite .positive my ey hy) :
    (if truncRem x y < 0 then truncRem x y + y else truncRem x y).isFinite = true ∧
      0 ≤ signedTicks (if truncRem x y < 0 then truncRem x y + y else truncRem x y).toModel.unpack ∧
      signedTicks (if truncRem x y < 0 then truncRem x y + y else truncRem x y).toModel.unpack ≤
        ticks my ey := by
  obtain ⟨hcy, hey⟩ := unpack_canonical hyu
  have hyf := isFinite_of_unpack_finite hyu
  -- the remainder is finite and below the period in magnitude
  have hr : (truncRem x y).isFinite = true ∧
      (signedTicks (truncRem x y).toModel.unpack).natAbs < ticks my ey := by
    rcases truncRem_lt hx hyu with ⟨t, h⟩ | ⟨t, M, T, hM, h, hlt⟩
    · refine ⟨by show (truncRem x y).toModel.unpack.isFinite = true; rw [h]; rfl, ?_⟩
      rw [h]
      exact ticks_pos hy ey
    · refine ⟨isFinite_of_unpack_finite h, ?_⟩
      rw [h, signedTicks_finite, natAbs_apply]
      exact hlt
  obtain ⟨hrf, hrlt⟩ := hr
  have hsy : signedTicks y.toModel.unpack = ticks my ey := by rw [hyu]; rfl
  split
  · rename_i hneg
    have hrneg := (lt_iff_signedTicks hrf isFinite_zero).1 hneg
    rw [signedTicks_zero] at hrneg
    have hround := add_roundsTo hrf hyf
    rw [hsy] at hround
    have hsmall : (signedTicks (truncRem x y).toModel.unpack + ticks my ey).natAbs ≤ ticks my ey := by
      omega
    have hfin : (truncRem x y + y).isFinite = true := by
      apply hround.isFinite
      have h1 := ticks_le_of_exponent_le 2044 hcy (by omega)
      generalize (2 : Nat) ^ 2044 = P at *
      omega
    obtain ⟨hle, hpos, -⟩ := hround.signedTicks_le (representable_ticks hcy) hsmall
    exact ⟨hfin, hpos (by omega), by omega⟩
  · rename_i hnneg
    have hrnn : ¬ signedTicks (truncRem x y).toModel.unpack < 0 := by
      rw [← signedTicks_zero, ← lt_iff_signedTicks hrf isFinite_zero]
      exact hnneg
    exact ⟨hrf, by omega, by omega⟩

/-- The same reduction is never NaN and never below zero. -/
theorem zero_le_reduce {x y : Float} {my : Nat} {ey : Int} {hy : 0 < my}
    (hx : x.isFinite = true) (hyu : y.toModel.unpack = .finite .positive my ey hy) :
    (if truncRem x y < 0 then truncRem x y + y else truncRem x y).isNaN = false ∧
      0 ≤ (if truncRem x y < 0 then truncRem x y + y else truncRem x y) := by
  obtain ⟨hfin, hnonneg, -⟩ := reduce_mem hx hyu
  refine ⟨isNaN_of_isFinite hfin, ?_⟩
  rw [le_iff_signedTicks isFinite_zero hfin, signedTicks_zero]
  exact hnonneg

end SailSim.Binary64
