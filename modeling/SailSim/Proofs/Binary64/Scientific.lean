import Mathlib
import SailSim.Proofs.Binary64.Interval

/-!
# Reading decimals

`Float.ofScientific m s e` reads the decimal `m · 10^e`, or `m · 10^-e` when `s` is set. For a
mantissa below `2^53` and an exponent up to 22 it multiplies or divides two exact floats, the
mantissa and a power of ten from a table; otherwise it multiplies or divides in the unpacked
model, after two guards against huge powers of ten. Each way the exact value reaches the
rounding step without loss, so the result is the float in whose rounding interval the decimal
lies:

* `Binary64.mul_of_mem`, `Binary64.div_of_mem` : a product or a quotient of positive finite
  numbers whose exact value lies in the rounding interval of a positive finite `x` is `x`;
* `Binary64.powersOfTen_unpack` : the table holds the exact powers of ten;
* **`Binary64.ofScientific_of_mem`** : a positive decimal in the rounding interval of a positive
  finite `x` reads as `x`.
-/

namespace SailSim.Binary64

open Float.Model Float.Model.UnpackedFloat

section Target

variable {x : Float} {mx : Nat} {q : Int} {hmx : 0 < mx}

/-- The exponent field of a finite nonzero number is past the least normal one exactly when
its exponent is above the least. -/
theorem one_lt_exponentField_iff {s : Sign} (hx : x.toModel.unpack = .finite s mx q hmx) :
    1 < exponentField x ↔ -1074 < q := by
  have hmag := (magnitude_of_unpack hx).1
  dsimp only [magnitude] at hmag
  split_ifs at hmag <;> simp only [Prod.mk.injEq] at hmag <;> omega

/-- Packing the unpacked form of a positive finite number gives the number back. -/
theorem ofModel_pack_eq (hx : x.toModel.unpack = .finite .positive mx q hmx) :
    Float.ofModel (Float.Model.pack (.finite .positive mx q hmx)) = x := by
  obtain ⟨hc, hq⟩ := unpack_canonical hx
  apply float_eq_of_unpack_eq
  rw [hx]
  exact unpack_pack_finite .positive hmx hc hq

/-! ### Products and quotients -/

/-- A product of positive finite numbers, rounded from a mantissa of at least 53 bits or below
the least exponent, is `x` when its exact value lies in the rounding interval of `x`. -/
theorem mul_of_mem {m₁ m₂ : Nat} {e₁ e₂ : Int} (h₁ : 0 < m₁) (h₂ : 0 < m₂)
    (he : 52 ≤ (m₁ * m₂).log2 ∨ e₁ + e₂ ≤ -1074)
    (hx : x.toModel.unpack = .finite .positive mx q hmx)
    (hin : (m₁ : ℚ) * 2 ^ e₁ * ((m₂ : ℚ) * 2 ^ e₂) / 2 ^ (q - 2) ∈
      intervalSet (roundingInterval mx (exponentField x))) :
    UnpackedFloat.mul Format.binary64 (.finite .positive m₁ e₁ h₁) (.finite .positive m₂ e₂ h₂) =
      .finite .positive mx q hmx := by
  -- the product is exact: its mantissa at the sum of the exponents, with no residual bits
  have hv : Halves (2 * ((m₁ : ℚ) * 2 ^ e₁ * ((m₂ : ℚ) * 2 ^ e₂)) / 2 ^ (e₁ + e₂))
      (ExtendedMantissa.ofMantissaAndAccuracy (m₁ * m₂) .exact) := by
    have hw : 2 * ((m₁ : ℚ) * 2 ^ e₁ * ((m₂ : ℚ) * 2 ^ e₂)) / 2 ^ (e₁ + e₂) =
        2 * ((m₁ * m₂ : ℕ) : ℚ) := by
      rw [zpow_add₀ two_ne_zero]
      push_cast
      field_simp
    rw [hw]
    exact halves_exact _
  exact roundWithAccuracy_of_mem .positive hv he hmx (unpack_canonical hx).1
    (fun _ => one_lt_exponentField_iff hx) hin

/-- A quotient of positive finite numbers is `x` when its exact value lies in the rounding
interval of `x`: the dividend is shifted far enough for the quotient to fill the mantissa. -/
theorem div_of_mem {m₁ m₂ : Nat} {e₁ e₂ : Int} (h₁ : 0 < m₁) (h₂ : 0 < m₂)
    (hx : x.toModel.unpack = .finite .positive mx q hmx)
    (hin : (m₁ : ℚ) * 2 ^ e₁ / ((m₂ : ℚ) * 2 ^ e₂) / 2 ^ (q - 2) ∈
      intervalSet (roundingInterval mx (exponentField x))) :
    UnpackedFloat.div Format.binary64 (.finite .positive m₁ e₁ h₁) (.finite .positive m₂ e₂ h₂) =
      .finite .positive mx q hmx := by
  simp only [UnpackedFloat.div, divCore, targetExponent_binary64, totalExponent]
  generalize hed : min (e₁ - e₂) (max ((m₁.log2 : Int) + 1 + e₁ - ((m₂.log2 : Int) + 1 + e₂) - 53)
    (-1074)) = ed
  set a := m₁ <<< (e₁ - e₂ - ed).toNat with ha
  have hshift : ((e₁ - e₂ - ed).toNat : Int) = e₁ - e₂ - ed := by omega
  -- the quotient `a / m₂` at `ed`, with the accuracy of its remainder, describes the value
  have hv : Halves (2 * ((m₁ : ℚ) * 2 ^ e₁ / ((m₂ : ℚ) * 2 ^ e₂)) / 2 ^ ed)
      (ExtendedMantissa.ofMantissaAndAccuracy (a / m₂) (accuracyOfFraction (a % m₂) m₂)) := by
    have hw : 2 * ((m₁ : ℚ) * 2 ^ e₁ / ((m₂ : ℚ) * 2 ^ e₂)) / 2 ^ ed = 2 * ((a : ℚ) / m₂) := by
      have ha' : (a : ℚ) = m₁ * 2 ^ (e₁ - e₂ - ed) := by
        rw [ha, Nat.shiftLeft_eq]
        push_cast
        rw [← zpow_natCast, hshift]
      rw [ha', zpow_sub₀ two_ne_zero, zpow_sub₀ two_ne_zero]
      field_simp
    rw [hw]
    exact halves_quotient a h₂
  -- unless the target is the least exponent, the dividend has 53 bits more than the divisor
  have he : 52 ≤ (a / m₂).log2 ∨ ed ≤ -1074 := by
    by_cases hlow : ed ≤ -1074
    · exact .inr hlow
    left
    have hapos : 0 < a := by rw [ha, Nat.shiftLeft_eq]; positivity
    have halog : a.log2 = m₁.log2 + (e₁ - e₂ - ed).toNat := log2_shiftLeft h₁ _
    have hwide : m₂.log2 + 53 ≤ a.log2 := by omega
    have hle : m₂ ≤ a := le_of_lt (lt_of_lt_of_le Nat.lt_log2_self
      ((Nat.le_log2 hapos.ne').1 (by omega)))
    have := (log2_div_bounds h₂ hle).2
    omega
  exact roundWithAccuracy_of_mem .positive hv he hmx (unpack_canonical hx).1
    (fun _ => one_lt_exponentField_iff hx) hin

/-! ### Exact operands -/

/-- Equal ticks are equal values, for exponents no lower than the least. -/
theorem value_eq_of_ticks {m n : Nat} {e f : Int} (he : -1074 ≤ e) (hf : -1074 ≤ f)
    (h : ticks m e = ticks n f) : (m : ℚ) * 2 ^ e = n * 2 ^ f := by
  have hcast : ∀ (k : Nat) (g : Int), -1074 ≤ g →
      ((ticks k g : ℕ) : ℚ) = k * 2 ^ g * 2 ^ (1074 : ℤ) := by
    intro k g hg
    rw [ticks, Nat.cast_mul, Nat.cast_pow, Nat.cast_ofNat, ← zpow_natCast,
      Int.toNat_of_nonneg (by omega), zpow_add₀ two_ne_zero, mul_assoc]
  have := congrArg (fun k : ℕ => (k : ℚ)) h
  simp only [hcast m e he, hcast n f hf] at this
  exact mul_right_cancel₀ (by positivity) this

/-- The table of the fast path as parts: `10^i = 5^i · 2^i`, with `5^i` shifted to 53 bits. -/
theorem powersOfTen_parts : ∀ i : Fin 23,
    positiveParts (Float.exactlyRepresentablePowersOfTen.getD i.val 0).toModel.unpack =
      some (5 ^ i.val <<< (52 - (5 ^ i.val).log2),
        (i.val : Int) - ((52 - (5 ^ i.val).log2 : ℕ) : ℤ)) := by
  decide +kernel

/-- Each entry of the table is its exact power of ten, a positive finite number with a full
mantissa. -/
theorem powersOfTen_unpack {E : Nat} (hE : E < Float.exactlyRepresentablePowersOfTen.size) :
    ∃ p t hp, Float.exactlyRepresentablePowersOfTen[E].toModel.unpack = .finite .positive p t hp ∧
      2 ^ 52 ≤ p ∧ (p : ℚ) * 2 ^ t = 10 ^ E := by
  have h23 : E < 23 := hE
  have h5 : 5 ^ E < 2 ^ 53 :=
    lt_of_le_of_lt (Nat.pow_le_pow_right (by norm_num) (by omega : E ≤ 22)) (by norm_num)
  have hL : (5 ^ E).log2 ≤ 52 := by
    have := (Nat.log2_lt (by positivity)).2 h5
    omega
  have hpos : 0 < 5 ^ E <<< (52 - (5 ^ E).log2) := by rw [Nat.shiftLeft_eq]; positivity
  refine ⟨_, (E : Int) - ((52 - (5 ^ E).log2 : ℕ) : ℤ), hpos, eq_finite_of_positiveParts hpos ?_, ?_, ?_⟩
  · simpa [Array.getD, hE] using powersOfTen_parts ⟨E, h23⟩
  · have hlead : 2 ^ (5 ^ E).log2 ≤ 5 ^ E := Nat.log2_self_le (by positivity)
    have hsplit : 2 ^ 52 = 2 ^ (5 ^ E).log2 * 2 ^ (52 - (5 ^ E).log2) := by
      rw [← Nat.pow_add]; congr 1; omega
    rw [Nat.shiftLeft_eq, hsplit]
    exact Nat.mul_le_mul_right _ hlead
  · -- `5^E · 2^(52 - L) · 2^(E - (52 - L)) = 5^E · 2^E`
    have h2 : (2 : ℚ) ^ (52 - (5 ^ E).log2) * 2 ^ ((E : ℤ) - ((52 - (5 ^ E).log2 : ℕ) : ℤ)) =
        2 ^ E := by
      rw [← zpow_natCast, ← zpow_add₀ two_ne_zero, add_sub_cancel, zpow_natCast]
    rw [Nat.shiftLeft_eq, Nat.cast_mul, Nat.cast_pow, Nat.cast_pow, mul_assoc]
    push_cast
    rw [h2, ← mul_pow]
    norm_num

/-! ### The unpacked decimal model -/

/-- The unpacked model reads a positive decimal of the rounding interval of `x` as `x`: the
guards against huge powers of ten never fire there, and the decimal is a product by `10^e` or
a quotient by `10^-e` of exact numbers. -/
theorem ofScientific_unpacked_of_mem {M : Nat} {e : Int} (hM : 0 < M)
    (hx : x.toModel.unpack = .finite .positive mx q hmx)
    (hin : (M : ℚ) * 10 ^ e / 2 ^ (q - 2) ∈ intervalSet (roundingInterval mx (exponentField x))) :
    UnpackedFloat.ofScientific Format.binary64 M e = .finite .positive mx q hmx := by
  obtain ⟨hc, hq⟩ := unpack_canonical hx
  obtain ⟨hvlo, hvhi⟩ := range_of_mem hmx hc hq hin
  have hM1 : (1 : ℚ) ≤ M := by exact_mod_cast hM
  unfold UnpackedFloat.ofScientific
  rw [dif_neg hM.ne']
  -- no decimal beyond `10^2048` lies below the overflow threshold
  have hbig : ¬ e > 2 ^ Format.binary64.exponentBits := by
    intro he
    have he' : 1024 ≤ e := by simp at he; omega
    have : (2 : ℚ) ^ (1024 : ℤ) ≤ M * 10 ^ e :=
      calc (2 : ℚ) ^ (1024 : ℤ) ≤ 10 ^ (1024 : ℤ) :=
            zpow_le_zpow_left₀ (by norm_num) (by norm_num) (by norm_num)
        _ ≤ 10 ^ e := zpow_le_zpow_right₀ (by norm_num) he'
        _ ≤ M * 10 ^ e := le_mul_of_one_le_left (by positivity) hM1
    linarith
  -- nor any below `10^-(2048 + log2 M)` above half the least subnormal
  have hsmall : ¬ e < -((2 ^ Format.binary64.exponentBits : Int) + M.log2) := by
    intro he
    have he' : e + M.log2 + 1 ≤ -1075 := by simp at he; omega
    have hlt : (M : ℚ) < 2 ^ (M.log2 + 1) := by exact_mod_cast Nat.lt_log2_self
    have h10 : (10 : ℚ) ^ e ≤ 2 ^ e := by
      have h := zpow_le_zpow_left₀ (by omega : (0 : ℤ) ≤ -e) (by norm_num : (0 : ℚ) ≤ 2)
        (by norm_num : (2 : ℚ) ≤ 10)
      rw [zpow_neg, zpow_neg] at h
      exact (inv_le_inv₀ (by positivity) (by positivity)).1 h
    have : (M : ℚ) * 10 ^ e < 2 ^ (-1075 : ℤ) :=
      calc (M : ℚ) * 10 ^ e < 2 ^ (M.log2 + 1) * 2 ^ e :=
            mul_lt_mul hlt h10 (zpow_pos (by norm_num) e) (by positivity)
        _ = 2 ^ (((M.log2 + 1 : ℕ) : ℤ) + e) := by rw [zpow_add₀ two_ne_zero, zpow_natCast]
        _ ≤ 2 ^ (-1075 : ℤ) := zpow_le_zpow_right₀ one_le_two (by push_cast; omega)
    linarith
  have hmb : Format.binary64.mantissaBits = 53 := rfl
  rw [if_neg hbig, if_neg hsmall]
  split
  · -- a product by `10^e`, the mantissa widened by 53 bits
    rename_i he
    refine mul_of_mem _ _ (.inl ?_) hx ?_
    · rw [hmb]
      apply (Nat.le_log2 (Nat.mul_ne_zero (by rw [Nat.shiftLeft_eq]; positivity) (by positivity))).2
      rw [Nat.shiftLeft_eq]
      calc 2 ^ 52 ≤ 2 ^ 53 := Nat.pow_le_pow_right (by norm_num) (by norm_num)
        _ ≤ M * 2 ^ 53 := Nat.le_mul_of_pos_left _ hM
        _ ≤ M * 2 ^ 53 * 10 ^ e.toNat := Nat.le_mul_of_pos_right _ (by positivity)
    · convert hin using 2
      rw [hmb, Nat.shiftLeft_eq]
      push_cast
      rw [← zpow_natCast (10 : ℚ), Int.toNat_of_nonneg he, zpow_neg]
      field_simp
      norm_num
  · -- a quotient by `10^-e`
    rename_i he
    refine div_of_mem _ _ hx ?_
    convert hin using 2
    push_cast
    rw [← zpow_natCast (10 : ℚ), Int.toNat_of_nonneg (by omega), zpow_neg]
    field_simp

/-! ### Reading a decimal -/

/-- **Reading a decimal.**  A positive decimal `M · 10^(±E)` in the rounding interval of a
positive finite `x` reads as `x`, on the fast path and on the slow one. -/
theorem ofScientific_of_mem {M : Nat} {s : Bool} {E : Nat} (hM : 0 < M)
    (hx : x.toModel.unpack = .finite .positive mx q hmx)
    (hin : (M : ℚ) * 10 ^ (if s then -(E : ℤ) else E) / 2 ^ (q - 2) ∈
      intervalSet (roundingInterval mx (exponentField x))) :
    Float.ofScientific M s E = x := by
  unfold Float.ofScientific
  split
  · -- the fast path: the mantissa and the power of ten are exact floats
    rename_i hsmall
    have hE : E < Float.exactlyRepresentablePowersOfTen.size := by
      show E < 23
      omega
    obtain ⟨M', T', hM', hw, hc', -, hticks⟩ := toUInt64_toFloat_unpack hM hsmall.1
    obtain ⟨p, t, hp, hpu, hp52, hpv⟩ := powersOfTen_unpack hE
    have hMv : (M' : ℚ) * 2 ^ T' = M := by
      simpa using value_eq_of_ticks hc'.2.1 (by norm_num) hticks
    cases s
    · show Float.ofModel (Float.Model.pack (UnpackedFloat.mul Format.binary64
          M.toUInt64.toFloat.toModel.unpack
          Float.exactlyRepresentablePowersOfTen[E].toModel.unpack)) = x
      have hlog : 52 ≤ (M' * p).log2 :=
        (Nat.le_log2 (Nat.mul_ne_zero hM'.ne' hp.ne')).2
          (le_trans hp52 (Nat.le_mul_of_pos_left _ hM'))
      rw [hw, hpu, mul_of_mem hM' hp (.inl hlog) hx (by rwa [hMv, hpv, ← zpow_natCast])]
      exact ofModel_pack_eq hx
    · show Float.ofModel (Float.Model.pack (UnpackedFloat.div Format.binary64
          M.toUInt64.toFloat.toModel.unpack
          Float.exactlyRepresentablePowersOfTen[E].toModel.unpack)) = x
      rw [hw, hpu, div_of_mem hM' hp hx (by
        rw [hMv, hpv]; simpa [zpow_neg, div_eq_mul_inv] using hin)]
      exact ofModel_pack_eq hx
  · -- the slow path through the unpacked model
    show Float.ofModel (Float.Model.pack (UnpackedFloat.ofScientific Format.binary64 M
      (if s then Int.negOfNat E else Int.ofNat E))) = x
    have he : ((if s then Int.negOfNat E else Int.ofNat E : Int)) =
        if s then -(E : ℤ) else E := by
      cases s <;> simp [Int.negOfNat_eq]
    rw [ofScientific_unpacked_of_mem hM hx (by rwa [he])]
    exact ofModel_pack_eq hx

end Target

end SailSim.Binary64
