import SailSim.Proofs.Binary64.Pack

/-!
# Rounding to binary64

A result is rounded from an integer mantissa `m` at an exponent `e`.  Counted in *ticks*, units
of the least subnormal `2^-1074`, a number `m · 2^e` with `e ≥ -1074` is the natural number
`ticks m e`, and sums and comparisons of such numbers become integer arithmetic.

* `Binary64.round_exact` : a mantissa of at most 53 bits is rounded exactly, only shifted into
  canonical shape, and a zero mantissa gives a zero (`round_zero`);
* `Binary64.hasSign_roundWithAccuracy` : rounding keeps the sign it is given;
* `Binary64.add_finite` : two finite numbers are added as one integer mantissa at the smaller
  exponent, whose ticks are the sum of theirs.
-/

namespace SailSim.Binary64

open Float.Model Float.Model.UnpackedFloat

/-! ### Ticks -/

/-- `m · 2^e` counted in units of the least subnormal, `2^-1074`. -/
def ticks (m : Nat) (e : Int) : Nat := m * 2 ^ (e + 1074).toNat

theorem ticks_shiftLeft (m : Nat) {e e₀ : Int} (h₀ : -1074 ≤ e₀) (h : e₀ ≤ e) :
    ticks (m <<< (e - e₀).toNat) e₀ = ticks m e := by
  unfold ticks
  rw [Nat.shiftLeft_eq, Nat.mul_assoc, ← Nat.pow_add]
  congr 2
  omega

theorem log2_shiftLeft {m : Nat} (hm : 0 < m) (k : Nat) : (m <<< k).log2 = m.log2 + k := by
  have hpos : m <<< k ≠ 0 := by rw [Nat.shiftLeft_eq]; positivity
  rw [Nat.log2_eq_iff hpos, Nat.shiftLeft_eq]
  constructor
  · rw [Nat.pow_add]
    exact Nat.mul_le_mul_right _ (Nat.log2_self_le hm.ne')
  · calc m * 2 ^ k < 2 ^ (m.log2 + 1) * 2 ^ k :=
          Nat.mul_lt_mul_of_pos_right Nat.lt_log2_self (by positivity)
      _ = 2 ^ (m.log2 + k + 1) := by rw [← Nat.pow_add]; congr 1; omega

theorem apply_mul (s : Sign) (a c : Int) : s.apply a * c = s.apply (a * c) := by
  cases s <;> simp [Sign.apply]

/-! ### Rounding -/

theorem targetExponent_eq (m : Nat) (e : Int) :
    Format.binary64.targetExponent (totalExponent m e) = Max.max ((m.log2 : Int) + e - 52) (-1074) := by
  simp only [Format.targetExponent, totalExponent, Format.mantissaBits, Format.minExponent]
  norm_num
  omega

/-- A mantissa of at most 53 bits at an exponent no less than the least is already in place:
the shift to the target exponent moves nothing. -/
theorem shiftToTargetExponent_small {m : Nat} {e : Int} (hm : m < 2 ^ 53) (he : -1074 ≤ e) :
    shiftToTargetExponent Format.binary64 m e .exact = (⟨m, false, false⟩, e) := by
  have hlog : m.log2 ≤ 52 := by
    rcases Nat.eq_zero_or_pos m with rfl | hpos
    · simp
    · have := (Nat.log2_lt hpos.ne').mpr hm; omega
  have hshift : (Format.binary64.targetExponent (totalExponent m e) - e).toNat = 0 := by
    rw [targetExponent_eq]; omega
  simp only [shiftToTargetExponent, shiftToExponent, hshift, ExtendedMantissa.ofMantissaAndAccuracy]
  simp [HShiftRight.hShiftRight, Nat.repeat]

theorem roundWithAccuracy_small (s : Sign) {m : Nat} {e : Int} (h : 0 < m) (hm : m < 2 ^ 53)
    (he : -1074 ≤ e) : roundWithAccuracy Format.binary64 s m e .exact = .finite s m e h := by
  simp only [roundWithAccuracy, shiftToTargetExponent_small hm he,
    ExtendedMantissa.roundedMantissa, ExtendedMantissa.accuracy, Accuracy.roundToNearestEven]
  simp [h.ne']

/-- A mantissa of at most 53 bits is rounded exactly: it is only shifted left into the canonical
shape, keeping its value. -/
theorem round_exact (s : Sign) {m : Nat} {e : Int} (hm : 0 < m) (hm' : m < 2 ^ 53)
    (he : -1074 ≤ e) :
    ∃ M T hM, UnpackedFloat.round Format.binary64 s m e = .finite s M T hM ∧ Canonical M T ∧
      T ≤ e ∧ ticks M T = ticks m e := by
  have hlog : m.log2 ≤ 52 := by have := (Nat.log2_lt hm.ne').mpr hm'; omega
  set t := Format.binary64.targetExponent (totalExponent m e) with ht'
  have ht := ht'
  rw [targetExponent_eq] at ht
  have hte : t ≤ e := by omega
  have hM : 0 < m <<< (e - t).toNat := by rw [Nat.shiftLeft_eq]; positivity
  have hMlog : (m <<< (e - t).toNat).log2 = m.log2 + (e - t).toNat := log2_shiftLeft hm _
  have hMlt : m <<< (e - t).toNat < 2 ^ 53 := (Nat.log2_lt hM.ne').mp (by omega)
  have hexp : e - ((e - t).toNat : Int) = t := by omega
  refine ⟨m <<< (e - t).toNat, t, hM, ?_, ⟨hMlt, by omega, ?_⟩, hte, ticks_shiftLeft m (by omega) hte⟩
  · simp only [UnpackedFloat.round, decreaseExponent, ← ht', hexp]
    exact roundWithAccuracy_small s hM hMlt (by omega)
  · by_cases hmin : t = -1074
    · exact Or.inr hmin
    · exact Or.inl ((Nat.le_log2 hM.ne').mp (by omega))

theorem shiftRight_zero (k : Nat) : (⟨0, false, false⟩ : ExtendedMantissa) >>> k = ⟨0, false, false⟩ := by
  induction k with
  | zero => rfl
  | succ k ih =>
    show ExtendedMantissa.shiftRightOne ((⟨0, false, false⟩ : ExtendedMantissa) >>> k) = _
    rw [ih]
    rfl

/-- Rounding a zero mantissa gives a zero of the requested sign. -/
theorem round_zero (s : Sign) (e : Int) : UnpackedFloat.round Format.binary64 s 0 e = .zero s := by
  simp only [UnpackedFloat.round, decreaseExponent, Nat.zero_shiftLeft, roundWithAccuracy,
    shiftToTargetExponent, shiftToExponent, ExtendedMantissa.ofMantissaAndAccuracy, shiftRight_zero,
    ExtendedMantissa.roundedMantissa, ExtendedMantissa.accuracy, Accuracy.roundToNearestEven]
  rfl

theorem hasSign_roundWithAccuracy (s : Sign) (m : Nat) (e : Int) (a : Accuracy) :
    HasSign s (roundWithAccuracy Format.binary64 s m e a) := by
  simp only [roundWithAccuracy]
  split <;> rfl

/-! ### Addition -/

/-- Two finite numbers are added as integer mantissas at the smaller exponent, and that integer
counts the exact sum in units of `2^(min e₁ e₂)`. -/
theorem add_finite (s₁ s₂ : Sign) {m₁ m₂ : Nat} {e₁ e₂ : Int} (h₁ : 0 < m₁) (h₂ : 0 < m₂)
    (he₁ : -1074 ≤ e₁) (he₂ : -1074 ≤ e₂) :
    ∃ n : Int, n * 2 ^ (Min.min e₁ e₂ + 1074).toNat =
        s₁.apply (ticks m₁ e₁) + s₂.apply (ticks m₂ e₂) ∧
      UnpackedFloat.add Format.binary64 (.finite s₁ m₁ e₁ h₁) (.finite s₂ m₂ e₂ h₂) =
        UnpackedFloat.normalize Format.binary64 n (Min.min e₁ e₂) .positive := by
  have h₀ : -1074 ≤ Min.min e₁ e₂ := le_min he₁ he₂
  refine ⟨_, ?_, rfl⟩
  rw [← ticks_shiftLeft m₁ h₀ (min_le_left e₁ e₂), ← ticks_shiftLeft m₂ h₀ (min_le_right e₁ e₂)]
  simp only [ticks, Int.add_mul, Nat.cast_mul, Nat.cast_pow, Nat.cast_ofNat, apply_mul]

end SailSim.Binary64
