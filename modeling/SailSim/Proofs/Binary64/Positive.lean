import SailSim.Proofs.Binary64.Interpolation

/-!
# Positive results

Rounding never sends a value that is not below the least subnormal to zero.  When the mantissa
starts at or below its target exponent, the rounded number is moreover canonical, and its
leading bit stands where the exact value's does or one place higher (a carry):

* `Binary64.roundWithAccuracy_canonical` : rounding in range gives a canonical finite number;
* `Binary64.ofNat_unpack` : a positive natural number converts to a canonical positive number
  of the same binade, or the next one;
* `Binary64.div_unpack` : a quotient of positive finite numbers that is neither too small nor
  too large is a canonical positive number of the quotient's binade, or the next one.

A sum of finite numbers whose ticks add up to more than zero is above zero
(`Binary64.zero_lt_add`), so sums of such numbers with zero or positive ones stay positive.
-/

namespace SailSim.Binary64

open Float.Model Float.Model.UnpackedFloat

/-! ### Rounding in range -/

theorem two_pow_le_of_le_log2 {m k : Nat} (hm : 0 < m) (hk : k ≤ m.log2) : 2 ^ k ≤ m :=
  (Nat.le_log2 hm.ne').1 hk

/-- **Rounding in range.**  A positive mantissa `m` at an exponent `e` no higher than its
target, whose value is not below the least subnormal, rounds to a canonical finite number of
the given sign, whose leading bit stands where `m`'s does or one place higher. -/
theorem roundWithAccuracy_canonical (s : Sign) {m : Nat} {e : Int} (acc : Accuracy) (hm : 0 < m)
    (hlo : -1074 ≤ (m.log2 : Int) + e) (he : 52 ≤ m.log2 ∨ e ≤ -1074) :
    ∃ M T hM, roundWithAccuracy Format.binary64 s m e acc = .finite s M T hM ∧ Canonical M T ∧
      (m.log2 : Int) + e ≤ M.log2 + T ∧ (M.log2 : Int) + T ≤ m.log2 + e + 1 := by
  set k := (Format.binary64.targetExponent (totalExponent m e) - e).toNat with hk
  have ht := targetExponent_eq m e
  -- the first shift moves `m` to its target exponent `e + k`, keeping 53 bits or fewer
  have hkle : k ≤ m.log2 := by omega
  set q := m / 2 ^ k with hqdef
  have hq1 : 1 ≤ q := (Nat.le_div_iff_mul_le (Nat.two_pow_pos k)).2
    (by simpa using two_pow_le_of_le_log2 hm hkle)
  have hq : q < 2 ^ 53 := by
    rw [hqdef, Nat.div_lt_iff_lt_mul (Nat.two_pow_pos k), ← Nat.pow_add]
    exact lt_of_lt_of_le Nat.lt_log2_self (Nat.pow_le_pow_right (by decide) (by omega))
  have hqlog : q.log2 + k = m.log2 := by
    have h₁ : 2 ^ (q.log2 + k) ≤ m := by
      rw [Nat.pow_add]
      calc 2 ^ q.log2 * 2 ^ k ≤ q * 2 ^ k :=
            Nat.mul_le_mul_right _ (Nat.log2_self_le (by omega))
        _ ≤ m := Nat.div_mul_le_self m _
    have h₂ : m < 2 ^ (q.log2 + 1 + k) := by
      rw [Nat.pow_add, Nat.mul_comm]
      calc m < 2 ^ k * (q + 1) := Nat.lt_mul_div_succ m (Nat.two_pow_pos k)
        _ ≤ 2 ^ k * 2 ^ (q.log2 + 1) := Nat.mul_le_mul_left _ Nat.lt_log2_self
    have := (Nat.le_log2 hm.ne').2 h₁
    have := (Nat.log2_lt hm.ne').2 h₂
    omega
  -- rounding adds at most one, so `R` is `q`, `q + 1`, or `2^53` after a carry
  set R := (ExtendedMantissa.ofMantissaAndAccuracy m acc >>> k).roundedMantissa with hR
  have hRb := roundedMantissa_bounds (ExtendedMantissa.ofMantissaAndAccuracy m acc >>> k)
  rw [shiftRight_mantissa, mantissa_ofMantissaAndAccuracy, ← hR] at hRb
  have ht₂ := targetExponent_eq R (e + k)
  set k₂ := (Format.binary64.targetExponent (totalExponent R (e + k)) - (e + k)).toNat with hk₂
  -- `R`'s leading bit is `q`'s, or one higher when rounding up crosses a power of two
  have hRlo : q.log2 ≤ R.log2 :=
    (Nat.le_log2 (show R ≠ 0 by omega)).2 (le_trans (Nat.log2_self_le (by omega)) hRb.1)
  have hRhi : R.log2 ≤ q.log2 + 1 := by
    have hq2 : q + 1 ≤ 2 ^ (q.log2 + 1) := Nat.lt_log2_self
    have := (Nat.log2_lt (show R ≠ 0 by omega)).2
      (show R < 2 ^ (q.log2 + 2) by rw [Nat.pow_succ]; omega)
    omega
  have hqlog52 : q.log2 ≤ 52 := by
    have := (Nat.log2_lt (show q ≠ 0 by omega)).2 hq
    omega
  -- a carry to `2^53` is shifted once more; any other mantissa stays where it is
  have hk₂v : k₂ = if R = 2 ^ 53 then 1 else 0 := by
    split_ifs with hc
    · have : R.log2 = 53 := by rw [hc]; rfl
      omega
    · have := (Nat.log2_lt (show R ≠ 0 by omega)).2 (show R < 2 ^ 53 by omega)
      omega
  generalize hu : roundWithAccuracy Format.binary64 s m e acc = u
  simp only [roundWithAccuracy, shiftToTargetExponent_acc, ← hk, ← hR, ← hk₂] at hu
  split at hu
  · rename_i h0
    rw [shiftRight_mantissa, mantissa_ofMantissaAndAccuracy] at h0
    split_ifs at hk₂v with hc
    · simp [hk₂v, hc] at h0
    · simp only [hk₂v, Nat.pow_zero, Nat.div_one] at h0
      omega
  · have hMv : (ExtendedMantissa.ofMantissaAndAccuracy R .exact >>> k₂).mantissa = R / 2 ^ k₂ := by
      rw [shiftRight_mantissa, mantissa_ofMantissaAndAccuracy]
    have key : Canonical (R / 2 ^ k₂) (e + k + k₂) ∧
        (m.log2 : Int) + e ≤ (R / 2 ^ k₂).log2 + (e + k + k₂) ∧
        ((R / 2 ^ k₂).log2 : Int) + (e + k + k₂) ≤ m.log2 + e + 1 := by
      split_ifs at hk₂v with hc
      · -- the carry: `2^52` one binade up
        have h52 : R / 2 ^ k₂ = 2 ^ 52 := by rw [hk₂v, hc]; rfl
        have hq52 : q.log2 = 52 := by
          have := (Nat.le_log2 (show q ≠ 0 by omega)).2 (show 2 ^ 52 ≤ q by omega)
          omega
        rw [h52]
        refine ⟨⟨by decide, by omega, .inl le_rfl⟩, ?_, ?_⟩ <;>
          · rw [show (2 ^ 52 : Nat).log2 = 52 from rfl]; omega
      · rw [hk₂v, Nat.pow_zero, Nat.div_one]
        refine ⟨⟨by omega, by omega, ?_⟩, by omega, by omega⟩
        -- a normal target keeps 53 bits; otherwise the exponent is the least
        by_cases hn : (m.log2 : Int) + e - 52 ≤ -1074
        · right; omega
        · left
          have : q.log2 = 52 := by omega
          exact le_trans (this ▸ Nat.log2_self_le (by omega)) hRb.1
    rw [← hMv] at key
    exact ⟨_, _, _, hu.symm, key⟩

/-- A canonical number below the overflow threshold is packed and unpacked unchanged. -/
theorem unpack_pack_finite (s : Sign) {M : Nat} {T : Int} (hM : 0 < M) (hc : Canonical M T)
    (hT : T ≤ 971) : (Float.Model.pack (.finite s M T hM)).unpack = .finite s M T hM :=
  unpack_pack_canonical s hM hc hT

/-- The exponent of a canonical number is at most its leading bit's place less 52, or the
least. -/
theorem exponent_le_of_canonical {M : Nat} {T : Int} (hM : 0 < M) (hc : Canonical M T) :
    T = -1074 ∨ (M.log2 : Int) = 52 := by
  rcases hc.2.2 with h | h
  · right
    have := (Nat.le_log2 hM.ne').2 h
    have := (Nat.log2_lt hM.ne').2 hc.1
    omega
  · left; exact h

/-! ### Natural numbers -/

/-- A positive natural number below `2^53` converts exactly as a 64-bit word: to a canonical
positive number of the same value. -/
theorem toUInt64_toFloat_unpack {n : Nat} (hn : 0 < n) (hsmall : n < 2 ^ 53) :
    ∃ M T hM, n.toUInt64.toFloat.toModel.unpack = .finite .positive M T hM ∧ Canonical M T ∧
      T ≤ 0 ∧ ticks M T = ticks n 0 := by
  obtain ⟨M, T, hM, hr, hc, hTe, hticks⟩ :=
    round_exact .positive hn hsmall (show (-1074 : Int) ≤ 0 by omega)
  refine ⟨M, T, hM, ?_, hc, hTe, hticks⟩
  have hn64 : n.toUInt64.toNat = n := by
    rw [Nat.toUInt64, UInt64.toNat_ofNat']; omega
  show (Float.Model.pack (UnpackedFloat.ofNat Format.binary64 n.toUInt64.toNat)).unpack = _
  rw [hn64]
  show (Float.Model.pack (UnpackedFloat.normalize Format.binary64 (n : Int) 0 .positive)).unpack = _
  rw [UnpackedFloat.normalize, show compare (n : Int) 0 = .gt from compare_gt_iff_gt.2 (by omega)]
  simp only [Int.toNat_natCast]
  rw [hr]
  exact unpack_pack_finite .positive hM hc (by omega)

/-- A positive natural number is converted by rounding a mantissa of at least 53 bits whose
leading bit stands where the number's does: through the decimal model, or exactly as a 64-bit
word and then times one. -/
theorem ofNat_eq_round {n : Nat} (hn : 0 < n) :
    ∃ m e, 0 < m ∧ 52 ≤ m.log2 ∧ (m.log2 : Int) + e = n.log2 ∧
      (Float.ofNat n).toModel = Float.Model.pack (roundWithAccuracy Format.binary64 .positive m e .exact) := by
  simp only [Float.ofNat, OfScientific.ofScientific, Float.ofScientific]
  split
  · -- exactly as a 64-bit word, then times one
    rename_i hsmall
    obtain ⟨M, T, hM, hw, hc, hTe, hticks⟩ := toUInt64_toFloat_unpack hn hsmall.1
    have hone : Float.exactlyRepresentablePowersOfTen[0].toModel.unpack =
        .finite .positive (2 ^ 52) (-52) (by decide) := rfl
    have hlogM : (M.log2 : Int) + T = n.log2 := by
      have h := congrArg Nat.log2 hticks
      rw [log2_ticks hM, log2_ticks hn] at h
      have := hc.2.1
      omega
    have hlog := log2_shiftLeft hM 52
    refine ⟨M <<< 52, T + -52, by rw [Nat.shiftLeft_eq]; positivity, by omega, by omega, ?_⟩
    show Float.Model.pack (UnpackedFloat.mul _ _ _) = _
    rw [hw, hone]
    simp only [UnpackedFloat.mul, Nat.shiftLeft_eq]
    rfl
  · -- through the decimal model: `n · 2^53` at `2^-53`, times `10^0`
    have hlog := log2_shiftLeft hn 53
    refine ⟨(n <<< 53) * 10 ^ (0 : Int).toNat, -53 + 0, ?_, ?_, ?_, ?_⟩
    · simp only [Int.toNat_zero, Nat.pow_zero, Nat.mul_one, Nat.shiftLeft_eq]; positivity
    · simp only [Int.toNat_zero, Nat.pow_zero, Nat.mul_one, hlog]; omega
    · simp only [Int.toNat_zero, Nat.pow_zero, Nat.mul_one, hlog]; omega
    · show Float.Model.pack (UnpackedFloat.ofScientific Format.binary64 n 0) = _
      unfold UnpackedFloat.ofScientific
      rw [dif_neg hn.ne', if_neg (by decide), if_neg (by simp), if_pos le_rfl]
      rfl

/-- A positive natural number below `2^1000` converts to a canonical positive number whose
leading bit stands where the number's does, or one place higher. -/
theorem ofNat_unpack {n : Nat} (hn : 0 < n) (hbig : n.log2 < 1000) :
    ∃ M T hM, (Float.ofNat n).toModel.unpack = .finite .positive M T hM ∧ Canonical M T ∧
      (n.log2 : Int) ≤ M.log2 + T ∧ (M.log2 : Int) + T ≤ n.log2 + 1 := by
  obtain ⟨m, e, hm, hm52, hme, heq⟩ := ofNat_eq_round hn
  obtain ⟨M, T, hM, hr, hc, hlo, hhi⟩ :=
    @roundWithAccuracy_canonical .positive m e .exact hm (by omega) (.inl hm52)
  have hT : T ≤ 971 := by rcases exponent_le_of_canonical hM hc with h | h <;> omega
  refine ⟨M, T, hM, ?_, hc, by omega, by omega⟩
  rw [heq, hr]
  exact unpack_pack_finite .positive hM hc hT

theorem ofNat_zero_unpack : (Float.ofNat 0).toModel.unpack = .zero .positive := rfl

/-! ### Quotients -/

/-- The leading bit of a quotient stands where the dividend's does less the divisor's, or one
place lower. -/
theorem log2_div_bounds {a b : Nat} (hb : 0 < b) (hab : b ≤ a) :
    (a / b).log2 + b.log2 ≤ a.log2 ∧ a.log2 ≤ (a / b).log2 + b.log2 + 1 := by
  have hq : 1 ≤ a / b := (Nat.le_div_iff_mul_le hb).2 (by omega)
  have ha : a ≠ 0 := by omega
  constructor
  · apply (Nat.le_log2 ha).2
    rw [Nat.pow_add]
    calc 2 ^ (a / b).log2 * 2 ^ b.log2 ≤ (a / b) * b :=
          Nat.mul_le_mul (Nat.log2_self_le (by omega)) (Nat.log2_self_le hb.ne')
      _ ≤ a := Nat.div_mul_le_self a b
  · have : a < 2 ^ ((a / b).log2 + b.log2 + 2) := by
      calc a < b * (a / b + 1) := Nat.lt_mul_div_succ a hb
        _ ≤ 2 ^ (b.log2 + 1) * 2 ^ ((a / b).log2 + 1) :=
          Nat.mul_le_mul (le_of_lt Nat.lt_log2_self) Nat.lt_log2_self
        _ = 2 ^ ((a / b).log2 + b.log2 + 2) := by rw [← Nat.pow_add]; congr 1; omega
    have := (Nat.log2_lt ha).2 this
    omega

/-- **Quotients in range.**  A quotient of positive finite numbers whose leading bits differ by
between `-1000` and `900` places is a canonical positive number whose leading bit stands that
many places up, give or take one. -/
theorem div_unpack {x y : Float} {m₁ m₂ : Nat} {e₁ e₂ : Int} {h₁ : 0 < m₁} {h₂ : 0 < m₂}
    (hx : x.toModel.unpack = .finite .positive m₁ e₁ h₁)
    (hy : y.toModel.unpack = .finite .positive m₂ e₂ h₂)
    (hlo : -1000 ≤ ((m₁.log2 : Int) + e₁) - (m₂.log2 + e₂))
    (hhi : ((m₁.log2 : Int) + e₁) - (m₂.log2 + e₂) ≤ 900) :
    ∃ M T hM, (x / y).toModel.unpack = .finite .positive M T hM ∧ Canonical M T ∧
      ((m₁.log2 : Int) + e₁) - (m₂.log2 + e₂) - 1 ≤ M.log2 + T ∧
      (M.log2 : Int) + T ≤ ((m₁.log2 : Int) + e₁) - (m₂.log2 + e₂) + 1 := by
  have hdiv : (x / y).toModel.unpack = (Float.Model.pack
      (UnpackedFloat.div Format.binary64 x.toModel.unpack y.toModel.unpack)).unpack := rfl
  rw [hdiv, hx, hy]
  simp only [UnpackedFloat.div, divCore, targetExponent_binary64, totalExponent]
  generalize hed : min (e₁ - e₂) (max ((m₁.log2 : Int) + 1 + e₁ - ((m₂.log2 : Int) + 1 + e₂) - 53)
    (-1074)) = ed
  -- the dividend is shifted until it has at least 53 bits more than the divisor
  set a := m₁ <<< (e₁ - e₂ - ed).toNat with ha
  have hapos : 0 < a := by rw [ha, Nat.shiftLeft_eq]; positivity
  have halog : a.log2 = m₁.log2 + (e₁ - e₂ - ed).toNat := log2_shiftLeft h₁ _
  have hwide : m₂.log2 + 53 ≤ a.log2 := by omega
  have hle : m₂ ≤ a := le_of_lt (lt_of_lt_of_le Nat.lt_log2_self
    ((Nat.le_log2 hapos.ne').1 (by omega)))
  obtain ⟨hq₁, hq₂⟩ := log2_div_bounds h₂ hle
  have hq : 0 < a / m₂ := (Nat.le_div_iff_mul_le h₂).2 (by omega)
  obtain ⟨M, T, hM, hr, hc, hlo', hhi'⟩ :=
    @roundWithAccuracy_canonical (.positive / .positive) (a / m₂) ed
      (accuracyOfFraction (a % m₂) m₂) hq (by omega) (.inl (by omega))
  have hT : T ≤ 971 := by rcases exponent_le_of_canonical hM hc with h | h <;> omega
  refine ⟨M, T, hM, ?_, hc, by omega, by omega⟩
  rw [hr]
  exact unpack_pack_finite .positive hM hc hT

/-! ### Positive sums -/

/-- A positive finite number has more ticks than zero. -/
theorem zero_lt_signedTicks {x : Float} {M : Nat} {T : Int} {hM : 0 < M}
    (hx : x.toModel.unpack = .finite .positive M T hM) : 0 < signedTicks x.toModel.unpack := by
  rw [hx, signedTicks_finite]
  simpa [Sign.apply] using ticks_pos hM T

/-- A sum of finite numbers whose ticks add up to more than zero is above zero. -/
theorem zero_lt_add {x y : Float} (hx : x.isFinite = true) (hy : y.isFinite = true)
    (h : 0 < signedTicks x.toModel.unpack + signedTicks y.toModel.unpack) : 0 < x + y :=
  zero_lt_of_roundsTo (add_roundsTo hx hy) h

end SailSim.Binary64
