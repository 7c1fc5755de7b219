import SailSim.Proofs.Binary64.Nearest

/-!
# The steps of an interpolation in binary64

The line through two breakpoints is read as `lo + (x - lo.a) / (hi.a - lo.a) * (hi - lo)`.
This module says what binary64 makes of those steps when the breakpoints bracket a finite `x`:

* `Binary64.zero_lt_sub_of_lt_of_le` : when `lo < x ≤ hi` the span `hi - lo` is above zero,
  for finite ends because rounding keeps the sign of a nonzero difference, and as `+∞` for an
  infinite one;
* **`Binary64.div_of_le`** : a finite number no less than zero divided by a larger positive one
  is finite and no less than zero, since the quotient's exponent stays below `-51` however it
  rounds (`div_exponent_le`, `roundWithAccuracy_exponent_le`);
* `Binary64.float_sub_self`, `Binary64.float_mul_zero`, `Binary64.float_add_zero` : a finite
  number less itself is `+0`, a finite number no less than zero times `+0` is `+0`, and adding
  `+0` changes only a negative zero.
-/

namespace SailSim.Binary64

open Float.Model Float.Model.UnpackedFloat

/-! ### Sums, differences and products with zero -/

theorem float_sub_zero (x : Float) : x - 0 = x := by
  apply float_eq_of_unpack_eq
  show (Float.Model.pack (UnpackedFloat.sub Format.binary64 x.toModel.unpack
    (0 : Float).toModel.unpack)).unpack = _
  rw [unpack_zero]
  have hsub : UnpackedFloat.sub Format.binary64 x.toModel.unpack (.zero .positive) =
      x.toModel.unpack := by
    cases x.toModel.unpack with
    | zero s => cases s <;> rfl
    | finite s m e hm => rfl
    | infinity s => rfl
    | notANumber => rfl
  rw [hsub, model_pack_unpack]

theorem float_sub_self {c : Float} (hc : c.isFinite = true) :
    (c - c).toModel.unpack = .zero .positive := by
  have hcu : c.toModel.unpack.isFinite = true := hc
  show (Float.Model.pack (UnpackedFloat.sub Format.binary64 c.toModel.unpack
    c.toModel.unpack)).unpack = _
  cases hu : c.toModel.unpack with
  | zero s => cases s <;> rfl
  | finite s m e hm =>
    simp only [UnpackedFloat.sub, sub_self, UnpackedFloat.normalize]
    exact unpack_pack_zero .positive
  | infinity s => rw [hu] at hcu; cases hcu
  | notANumber => rw [hu] at hcu; cases hcu

theorem float_mul_zero {f z : Float} (hf : f.isFinite = true)
    (hs : HasSign .positive f.toModel.unpack) (hz : z.toModel.unpack = .zero .positive) :
    (f * z).toModel.unpack = .zero .positive := by
  have hfu : f.toModel.unpack.isFinite = true := hf
  show (Float.Model.pack (UnpackedFloat.mul Format.binary64 f.toModel.unpack
    z.toModel.unpack)).unpack = _
  rw [hz]
  cases hu : f.toModel.unpack with
  | zero s => rw [hu] at hs; cases hs; rfl
  | finite s m e hm =>
    rw [hu] at hs; cases hs
    simp only [UnpackedFloat.mul]
    exact unpack_pack_zero _
  | infinity s => rw [hu] at hfu; cases hfu
  | notANumber => rw [hu] at hfu; cases hfu

/-- Adding a positive zero changes nothing but the sign of a negative zero. -/
theorem float_add_zero (c : Float) {z : Float} (hz : z.toModel.unpack = .zero .positive) :
    c + z = c ∨ (c = -0 ∧ c + z = 0) := by
  have hadd : c + z = Float.ofModel (Float.Model.pack
      (UnpackedFloat.add Format.binary64 c.toModel.unpack (.zero .positive))) := by
    show Float.ofModel (Float.Model.pack
      (UnpackedFloat.add Format.binary64 c.toModel.unpack z.toModel.unpack)) = _
    rw [hz]
  by_cases hneg : c.toModel.unpack = .zero .negative
  · refine .inr ⟨float_eq_of_unpack_eq (by rw [hneg, unpack_neg_zero]), ?_⟩
    apply float_eq_of_unpack_eq
    rw [hadd, hneg, unpack_zero]
    exact unpack_pack_zero _
  · -- every other number is its own sum with a positive zero
    have hself : UnpackedFloat.add Format.binary64 c.toModel.unpack (.zero .positive) =
        c.toModel.unpack := by
      cases hu : c.toModel.unpack with
      | zero s =>
        cases s with
        | positive => rfl
        | negative => exact absurd hu hneg
      | finite s m e hm => simp only [UnpackedFloat.add]
      | infinity s => rfl
      | notANumber => rfl
    left
    rw [hadd, hself, model_pack_unpack]

/-! ### Quotients by larger numbers -/

theorem mantissa_ofMantissaAndAccuracy (m : Nat) (acc : Accuracy) :
    (ExtendedMantissa.ofMantissaAndAccuracy m acc).mantissa = m := by
  rcases acc with _ | _ | _ | _ <;> rfl

theorem shiftToTargetExponent_acc (m : Nat) (e : Int) (acc : Accuracy) :
    shiftToTargetExponent Format.binary64 m e acc =
      (ExtendedMantissa.ofMantissaAndAccuracy m acc >>>
          (Format.binary64.targetExponent (totalExponent m e) - e).toNat,
        e + ((Format.binary64.targetExponent (totalExponent m e) - e).toNat : Int)) :=
  rfl

/-- Rounding with any accuracy raises the exponent to the target at most, and a carry one
further. -/
theorem roundWithAccuracy_exponent_le (s : Sign) (m : Nat) (e : Int) (acc : Accuracy)
    {s' : Sign} {M : Nat} {T : Int} {hM : 0 < M}
    (h : roundWithAccuracy Format.binary64 s m e acc = .finite s' M T hM) :
    T ≤ Max.max e (Max.max ((m.log2 : Int) + e - 52) (-1074)) + 1 := by
  set k := (Format.binary64.targetExponent (totalExponent m e) - e).toNat with hk
  have ht := targetExponent_eq m e
  -- the first shift leaves at most 53 bits, and rounding at most `2^53`
  set R := (ExtendedMantissa.ofMantissaAndAccuracy m acc >>> k).roundedMantissa with hR
  have hRle : R ≤ m / 2 ^ k + 1 := by
    have := (roundedMantissa_bounds (ExtendedMantissa.ofMantissaAndAccuracy m acc >>> k)).2
    rwa [shiftRight_mantissa, mantissa_ofMantissaAndAccuracy] at this
  have hq : m / 2 ^ k < 2 ^ 53 := by
    rw [Nat.div_lt_iff_lt_mul (Nat.two_pow_pos k), ← Nat.pow_add]
    exact lt_of_lt_of_le Nat.lt_log2_self (Nat.pow_le_pow_right (by decide) (by omega))
  have hRlog : R.log2 ≤ 53 := by
    rcases Nat.eq_zero_or_pos R with h0 | hpos
    · rw [h0]; simp
    · have := (Nat.log2_lt hpos.ne').mpr (show R < 2 ^ 54 by omega)
      omega
  -- the second shift, for a carry, moves the exponent one further at most
  have ht₂ := targetExponent_eq R (e + k)
  simp only [roundWithAccuracy, shiftToTargetExponent_acc, ← hk, ← hR] at h
  split at h
  · cases h
  · cases h
    omega

theorem roundWithAccuracy_cases (s : Sign) (m : Nat) (e : Int) (acc : Accuracy) :
    roundWithAccuracy Format.binary64 s m e acc = .zero s ∨
      ∃ M T hM, roundWithAccuracy Format.binary64 s m e acc = .finite s M T hM := by
  set k := (Format.binary64.targetExponent (totalExponent m e) - e).toNat with hk
  set R := (ExtendedMantissa.ofMantissaAndAccuracy m acc >>> k).roundedMantissa with hR
  generalize hu : roundWithAccuracy Format.binary64 s m e acc = u
  simp only [roundWithAccuracy, shiftToTargetExponent_acc, ← hk, ← hR] at hu
  split at hu
  · exact .inl hu.symm
  · exact .inr ⟨_, _, _, hu.symm⟩

theorem targetExponent_binary64 (t : Int) :
    Format.binary64.targetExponent t = Max.max (t - 53) (-1074) := by
  simp only [Format.targetExponent, Format.mantissaBits, Format.minExponent]
  norm_num

/-- The quotient of a number by one whose leading bit is no lower keeps its exponent below
`-51`, however it rounds. -/
theorem div_exponent_le (s₁ s₂ : Sign) {m₁ m₂ : Nat} {e₁ e₂ : Int} (h₁ : 0 < m₁) (h₂ : 0 < m₂)
    (hle : (m₁.log2 : Int) + e₁ ≤ m₂.log2 + e₂) {s : Sign} {M : Nat} {T : Int} {hM : 0 < M}
    (h : UnpackedFloat.div Format.binary64 (.finite s₁ m₁ e₁ h₁) (.finite s₂ m₂ e₂ h₂) =
      .finite s M T hM) :
    T ≤ -51 := by
  simp only [UnpackedFloat.div, divCore] at h
  have hT := roundWithAccuracy_exponent_le _ _ _ _ h
  rw [targetExponent_binary64] at hT
  simp only [totalExponent] at hT
  -- the exponent of the quotient's mantissa is at most `-53`, and at most `e₁ - e₂`
  generalize hed : Min.min (e₁ - e₂)
    (Max.max ((m₁.log2 : Int) + 1 + e₁ - ((m₂.log2 : Int) + 1 + e₂) - 53) (-1074)) = ed at hT
  have hed₁ : ed ≤ e₁ - e₂ := by rw [← hed]; omega
  have hed₂ : ed ≤ -53 := by rw [← hed]; omega
  -- its mantissa has no more bits than the exponents leave room for
  generalize hq : m₁ <<< (e₁ - e₂ - ed).toNat / m₂ = q at hT
  have hqlog : (q.log2 : Int) + ed ≤ 0 := by
    rcases Nat.eq_zero_or_pos q with h0 | hpos
    · rw [h0]; simp; omega
    have hmul : q * m₂ ≤ m₁ * 2 ^ (e₁ - e₂ - ed).toNat := by
      rw [← hq, ← Nat.shiftLeft_eq]
      exact Nat.div_mul_le_self _ _
    have hpow : 2 ^ (q.log2 + m₂.log2) < 2 ^ (m₁.log2 + 1 + (e₁ - e₂ - ed).toNat) :=
      calc 2 ^ (q.log2 + m₂.log2) = 2 ^ q.log2 * 2 ^ m₂.log2 := Nat.pow_add _ _ _
        _ ≤ q * m₂ := Nat.mul_le_mul (Nat.log2_self_le hpos.ne') (Nat.log2_self_le h₂.ne')
        _ ≤ m₁ * 2 ^ (e₁ - e₂ - ed).toNat := hmul
        _ < 2 ^ (m₁.log2 + 1) * 2 ^ (e₁ - e₂ - ed).toNat :=
          Nat.mul_lt_mul_of_pos_right Nat.lt_log2_self (Nat.two_pow_pos _)
        _ = 2 ^ (m₁.log2 + 1 + (e₁ - e₂ - ed).toNat) := (Nat.pow_add _ _ _).symm
    have := (Nat.pow_lt_pow_iff_right (by decide : 1 < 2)).1 hpow
    omega
  omega

theorem log2_ticks {m : Nat} (hm : 0 < m) (e : Int) :
    (ticks m e).log2 = m.log2 + (e + 1074).toNat := by
  rw [ticks, ← Nat.shiftLeft_eq, log2_shiftLeft hm]

/-- A number above zero is a positive finite number or positive infinity. -/
theorem unpack_of_pos {y : Float} (hy : 0 < y) :
    (∃ m e hm, y.toModel.unpack = .finite .positive m e hm) ∨
      y.toModel.unpack = .infinity .positive := by
  rw [lt_iff_unpack, unpack_zero] at hy
  cases hu : y.toModel.unpack with
  | finite s m e hm =>
    rw [hu] at hy
    cases s with
    | positive => exact .inl ⟨m, e, hm, rfl⟩
    | negative => cases hy
  | infinity s =>
    rw [hu] at hy
    cases s with
    | positive => exact .inr rfl
    | negative => cases hy
  | zero s => rw [hu] at hy; cases hy
  | notANumber => rw [hu] at hy; cases hy

/-- **A quotient by a larger number.**  A finite number no less than zero divided by a larger
positive one, finite or infinite, is a finite number no less than zero. -/
theorem div_of_le {x y : Float} (hx : x.isFinite = true) (hxs : HasSign .positive x.toModel.unpack)
    (hy : 0 < y) (hxy : x ≤ y) :
    (x / y).isFinite = true ∧ HasSign .positive (x / y).toModel.unpack := by
  have hxu : x.toModel.unpack.isFinite = true := hx
  have hdiv : (x / y).toModel.unpack = (Float.Model.pack
      (UnpackedFloat.div Format.binary64 x.toModel.unpack y.toModel.unpack)).unpack := rfl
  rw [show (x / y).isFinite = (x / y).toModel.unpack.isFinite from rfl, hdiv]
  cases hu : x.toModel.unpack with
  | zero s =>
    rw [hu] at hxs
    cases hxs
    -- a zero divided by a positive number is a positive zero
    rcases unpack_of_pos hy with ⟨m₂, e₂, h₂, hyu⟩ | hyu <;>
      · simp only [hyu, UnpackedFloat.div, unpack_pack_zero]
        exact ⟨rfl, rfl⟩
  | finite s m₁ e₁ h₁ =>
    rw [hu] at hxs
    cases hxs
    rcases unpack_of_pos hy with ⟨m₂, e₂, h₂, hyu⟩ | hyu
    · -- the leading bit of the dividend is no higher than the divisor's
      have hle := (le_iff_signedTicks hx (isFinite_of_unpack_finite hyu)).1 hxy
      rw [hu, hyu, signedTicks_finite, signedTicks_finite] at hle
      have hle' : ((ticks m₁ e₁ : Nat) : Int) ≤ ticks m₂ e₂ := hle
      have hticks : ticks m₁ e₁ ≤ ticks m₂ e₂ := by exact_mod_cast hle'
      have hlog : (ticks m₁ e₁).log2 ≤ (ticks m₂ e₂).log2 := by
        rw [Nat.log2_eq_log_two, Nat.log2_eq_log_two]
        exact Nat.log_mono_right hticks
      rw [log2_ticks h₁, log2_ticks h₂] at hlog
      have he₁ := (unpack_canonical hu).1.2.1
      have he₂ := (unpack_canonical hyu).1.2.1
      rw [hyu]
      have hsign := hasSign_unpack_pack (hasSign_roundWithAccuracy (.positive / .positive) m₁ e₁ .exact)
      have hq : UnpackedFloat.div Format.binary64 (.finite .positive m₁ e₁ h₁)
          (.finite .positive m₂ e₂ h₂) = .zero .positive ∨
          ∃ M T hM, UnpackedFloat.div Format.binary64 (.finite .positive m₁ e₁ h₁)
            (.finite .positive m₂ e₂ h₂) = .finite .positive M T hM := by
        simp only [UnpackedFloat.div]
        exact roundWithAccuracy_cases _ _ _ _
      rcases hq with hq | ⟨M, T, hM, hq⟩
      · rw [hq, unpack_pack_zero]
        exact ⟨rfl, rfl⟩
      · have hT := div_exponent_le _ _ h₁ h₂ (by omega) hq
        rw [hq]
        exact ⟨isFinite_unpack_pack_of_le _ hM (by omega), hasSign_unpack_pack rfl⟩
    · -- a finite number divided by infinity is a positive zero
      simp only [hyu, UnpackedFloat.div, unpack_pack_zero]
      exact ⟨rfl, rfl⟩
  | infinity s => rw [hu] at hxu; cases hxu
  | notANumber => rw [hu] at hxu; cases hxu

/-! ### Spans and bounds -/

/-- A rounding of a positive value is above zero. -/
theorem zero_lt_of_roundsTo {v : Int} {w : Float} (h : RoundsTo v w.toModel.unpack) (hv : 0 < v) :
    0 < w := by
  have hpos : signOf v = .positive := if_neg (by omega)
  rw [lt_iff_unpack, unpack_zero]
  cases hu : w.toModel.unpack with
  | zero s => rw [hu] at h; exact absurd (show v = 0 from h) (by omega)
  | finite s M T hM =>
    rw [hu] at h
    obtain ⟨-, hs, -⟩ := h
    rw [hs, hpos]
    rfl
  | infinity s =>
    rw [hu] at h
    obtain ⟨-, hs, -⟩ := h
    rw [hs, hpos]
    rfl
  | notANumber => rw [hu] at h; exact h.elim

/-- A number no less than a finite one and not finite itself is positive infinity. -/
theorem eq_infinity_of_le {x y : Float} (hx : x.isFinite = true) (hxy : x ≤ y)
    (hy : y.isFinite = false) : y.toModel.unpack = .infinity .positive := by
  have hxu : x.toModel.unpack.isFinite = true := hx
  have hyu : y.toModel.unpack.isFinite = false := hy
  rw [le_iff_unpack] at hxy
  cases hu : y.toModel.unpack with
  | infinity s =>
    cases s with
    | positive => rfl
    | negative =>
      rw [hu] at hxy
      cases hv : x.toModel.unpack with
      | zero t => rw [hv] at hxy; cases hxy
      | finite t m e hm => rw [hv] at hxy; cases t <;> cases hxy
      | infinity t => rw [hv] at hxu; cases hxu
      | notANumber => rw [hv] at hxu; cases hxu
  | notANumber =>
    rw [hu] at hxy
    cases hv : x.toModel.unpack <;> rw [hv] at hxy <;> cases hxy
  | zero s => rw [hu] at hyu; cases hyu
  | finite s m e hm => rw [hu] at hyu; cases hyu

/-- A number below a finite one and not finite itself is negative infinity. -/
theorem eq_neg_infinity_of_lt {x y : Float} (hy : y.isFinite = true) (hxy : x < y)
    (hx : x.isFinite = false) : x.toModel.unpack = .infinity .negative := by
  have hxu : x.toModel.unpack.isFinite = false := hx
  have hyu : y.toModel.unpack.isFinite = true := hy
  rw [lt_iff_unpack] at hxy
  cases hu : x.toModel.unpack with
  | infinity s =>
    cases s with
    | negative => rfl
    | positive =>
      rw [hu] at hxy
      cases hv : y.toModel.unpack with
      | zero t => rw [hv] at hxy; cases hxy
      | finite t m e hm => rw [hv] at hxy; cases t <;> cases hxy
      | infinity t => rw [hv] at hyu; cases hyu
      | notANumber => rw [hv] at hyu; cases hyu
  | notANumber =>
    rw [hu] at hxy
    cases hxy
  | zero s => rw [hu] at hxu; cases hxu
  | finite s m e hm => rw [hu] at hxu; cases hxu

/-- **Positive spans.**  When `lo < x ≤ hi` for a finite `x`, the difference `hi - lo` is above
zero: for finite ends because rounding keeps the sign of a nonzero difference, and as positive
infinity when an end is infinite. -/
theorem zero_lt_sub_of_lt_of_le {lo x hi : Float} (hx : x.isFinite = true) (hlo : lo < x)
    (hhi : x ≤ hi) : 0 < hi - lo := by
  have hsub : (hi - lo).toModel.unpack = (Float.Model.pack
      (UnpackedFloat.sub Format.binary64 hi.toModel.unpack lo.toModel.unpack)).unpack := rfl
  cases hlof : lo.isFinite with
  | true =>
    cases hhif : hi.isFinite with
    | true =>
      have h₁ := (lt_iff_signedTicks hlof hx).1 hlo
      have h₂ := (le_iff_signedTicks hx hhif).1 hhi
      exact zero_lt_of_roundsTo (sub_roundsTo hhif hlof) (by omega)
    | false =>
      -- `+∞` less a finite number
      have hlu : lo.toModel.unpack.isFinite = true := hlof
      rw [lt_iff_unpack, unpack_zero, hsub, eq_infinity_of_le hx hhi hhif]
      cases hv : lo.toModel.unpack with
      | zero s => simp only [UnpackedFloat.sub, unpack_pack_infinity]; rfl
      | finite s m e hm => simp only [UnpackedFloat.sub, unpack_pack_infinity]; rfl
      | infinity s => rw [hv] at hlu; cases hlu
      | notANumber => rw [hv] at hlu; cases hlu
  | false =>
    -- a finite number or `+∞` less `-∞`
    rw [lt_iff_unpack, unpack_zero, hsub, eq_neg_infinity_of_lt hx hlo hlof]
    cases hhif : hi.isFinite with
    | true =>
      have hhu : hi.toModel.unpack.isFinite = true := hhif
      cases hv : hi.toModel.unpack with
      | zero s => simp only [UnpackedFloat.sub, unpack_pack_infinity]; rfl
      | finite s m e hm => simp only [UnpackedFloat.sub, unpack_pack_infinity]; rfl
      | infinity s => rw [hv] at hhu; cases hhu
      | notANumber => rw [hv] at hhu; cases hhu
    | false =>
      rw [eq_infinity_of_le hx hhi hhif]
      rfl

/-- A number between two finite ones is finite. -/
theorem isFinite_of_le_of_le {lo x hi : Float} (hlo : lo.isFinite = true) (hhi : hi.isFinite = true)
    (h₁ : lo ≤ x) (h₂ : x ≤ hi) : x.isFinite = true := by
  cases hx : x.isFinite with
  | true => rfl
  | false =>
    have hxu := eq_infinity_of_le hlo h₁ hx
    have hhu : hi.toModel.unpack.isFinite = true := hhi
    rw [le_iff_unpack, hxu] at h₂
    cases hv : hi.toModel.unpack with
    | zero s => rw [hv] at h₂; cases h₂
    | finite s m e hm => rw [hv] at h₂; cases s <;> cases h₂
    | infinity s => rw [hv] at hhu; cases hhu
    | notANumber => rw [hv] at hhu; cases hhu

theorem isNaN_of_le_right {x y : Float} (h : x ≤ y) : y.isNaN = false := by
  rw [isNaN_eq_unpack]
  rw [le_iff_unpack] at h
  cases hv : y.toModel.unpack with
  | notANumber =>
    rw [hv] at h
    cases hx : x.toModel.unpack <;> rw [hx] at h <;> cases h
  | _ => rfl

/-- The absolute value of a finite number is a finite number no less than zero. -/
theorem abs_of_isFinite {x : Float} (hx : x.isFinite = true) :
    (Float.abs x).isFinite = true ∧ HasSign .positive (Float.abs x).toModel.unpack := by
  have hxu : x.toModel.unpack.isFinite = true := hx
  have habs : (Float.abs x).toModel.unpack = (Float.Model.pack x.toModel.unpack.abs).unpack := rfl
  rw [show (Float.abs x).isFinite = (Float.abs x).toModel.unpack.isFinite from rfl, habs]
  cases hu : x.toModel.unpack with
  | zero s =>
    simp only [UnpackedFloat.abs, unpack_pack_zero]
    exact ⟨rfl, rfl⟩
  | finite s m e hm =>
    obtain ⟨hc, he⟩ := unpack_canonical hu
    have hp : (Float.Model.pack (.finite .positive m e hm)).unpack = .finite .positive m e hm :=
      unpack_pack_canonical .positive hm hc he
    simp only [UnpackedFloat.abs, hp]
    exact ⟨rfl, rfl⟩
  | infinity s => rw [hu] at hxu; cases hxu
  | notANumber => rw [hu] at hxu; cases hxu

theorem not_le_zero_of_pos {s : Float} (h : 0 < s) : ¬ s ≤ 0 ∧ (s == 0) = false := by
  rcases unpack_of_pos h with ⟨m, e, hm, hu⟩ | hu
  · refine ⟨fun hle => ?_, Bool.eq_false_iff.2 fun hb => ?_⟩
    · rw [le_iff_unpack, hu, unpack_zero] at hle
      cases hle
    · obtain ⟨t, ht⟩ := (beq_zero_iff s).1 hb
      rw [hu] at ht
      cases ht
  · refine ⟨fun hle => ?_, Bool.eq_false_iff.2 fun hb => ?_⟩
    · rw [le_iff_unpack, hu, unpack_zero] at hle
      cases hle
    · obtain ⟨t, ht⟩ := (beq_zero_iff s).1 hb
      rw [hu] at ht
      cases ht

theorem not_le_zero_of_isNaN {s : Float} (h : s.isNaN = true) : ¬ s ≤ 0 ∧ (s == 0) = false := by
  rw [isNaN_eq_unpack] at h
  have hu : s.toModel.unpack = .notANumber := by
    cases hv : s.toModel.unpack <;> rw [hv] at h <;> first | rfl | cases h
  refine ⟨fun hle => ?_, Bool.eq_false_iff.2 fun hb => ?_⟩
  · rw [le_iff_unpack, hu, unpack_zero] at hle
    cases hle
  · obtain ⟨t, ht⟩ := (beq_zero_iff s).1 hb
    rw [hu] at ht
    cases ht

end SailSim.Binary64
