import SailSim.Proofs.Binary64.Order

/-!
# Sums and differences round to nearest

Rounding a mantissa `m` at an exponent `e` gives `m · 2^e` rounded to nearest at a unit of
`2^j` ticks: the quotient by the unit or one more, and the quotient itself below the half
(`Binary64.round_ticks`).  `Binary64.Rounded a b` says this of magnitudes, and
`Binary64.RoundsTo v u` of a signed exact value `v` and an unpacked result `u`: a zero, a
canonical finite number of `v`'s sign, or an infinity of that sign once `v` passes the largest
finite number by half a unit.  Main results:

* **`Binary64.add_roundsTo`**, **`Binary64.sub_roundsTo`** : the sum and the difference of two
  finite numbers round the sum and the difference of their signed ticks;
* `Binary64.Rounded.le_of_le` : rounding to nearest never crosses a representable bound from
  below, so a rounded value keeps every such bound of the exact one, and its sign
  (`RoundsTo.signedTicks_le`);
* `Binary64.RoundsTo.isFinite` : a rounding of a value half a top unit below `2^1024` is finite,
  and every finite number is a top unit below it (`natAbs_signedTicks_le`).
-/

namespace SailSim.Binary64

open Float.Model Float.Model.UnpackedFloat

/-! ### Rounding to nearest -/

theorem shiftRight_mantissa (em : ExtendedMantissa) (k : Nat) :
    (em >>> k).mantissa = em.mantissa / 2 ^ k := by
  induction k with
  | zero =>
    show em.mantissa = em.mantissa / 2 ^ 0
    simp
  | succ k ih =>
    show (ExtendedMantissa.shiftRightOne (em >>> k)).mantissa = _
    simp only [ExtendedMantissa.shiftRightOne, ih, Nat.div_div_eq_div_mul, Nat.pow_succ]

theorem roundBit_shiftRight (m k : Nat) :
    ((⟨m, false, false⟩ : ExtendedMantissa) >>> (k + 1)).roundBit = (m / 2 ^ k % 2 != 0) := by
  show (ExtendedMantissa.shiftRightOne ((⟨m, false, false⟩ : ExtendedMantissa) >>> k)).roundBit = _
  simp only [ExtendedMantissa.shiftRightOne, shiftRight_mantissa]

theorem roundedMantissa_bounds (em : ExtendedMantissa) :
    em.mantissa ≤ em.roundedMantissa ∧ em.roundedMantissa ≤ em.mantissa + 1 := by
  rcases em with ⟨m, _ | _, _ | _⟩ <;>
    simp only [ExtendedMantissa.roundedMantissa, ExtendedMantissa.accuracy,
      Accuracy.roundToNearestEven] <;>
    omega

theorem roundedMantissa_of_roundBit (em : ExtendedMantissa) (h : em.roundBit = false) :
    em.roundedMantissa = em.mantissa := by
  rcases em with ⟨m, r, st⟩
  cases r
  · cases st <;> rfl
  · cases h

/-- Shifting `m` right by `k` and rounding gives the quotient `m / 2^k` or one more, and the
quotient itself when the remainder is below half of `2^k`. -/
theorem rounded_shiftRight (m k : Nat) :
    m / 2 ^ k ≤ ((⟨m, false, false⟩ : ExtendedMantissa) >>> k).roundedMantissa ∧
      ((⟨m, false, false⟩ : ExtendedMantissa) >>> k).roundedMantissa ≤ m / 2 ^ k + 1 ∧
      (2 * (m % 2 ^ k) < 2 ^ k →
        ((⟨m, false, false⟩ : ExtendedMantissa) >>> k).roundedMantissa = m / 2 ^ k) := by
  have hb := roundedMantissa_bounds ((⟨m, false, false⟩ : ExtendedMantissa) >>> k)
  rw [shiftRight_mantissa] at hb
  refine ⟨hb.1, hb.2, fun hhalf => ?_⟩
  rw [← shiftRight_mantissa ⟨m, false, false⟩ k]
  apply roundedMantissa_of_roundBit
  cases k with
  | zero => rfl
  | succ k =>
    -- the bit below the kept ones is the top bit of the remainder, which is below half
    rw [roundBit_shiftRight]
    have hsplit : m % 2 ^ (k + 1) = m % 2 ^ k + 2 ^ k * (m / 2 ^ k % 2) := Nat.mod_pow_succ
    have : m / 2 ^ k % 2 = 0 := by
      rw [Nat.pow_succ] at hhalf
      rcases Nat.mod_two_eq_zero_or_one (m / 2 ^ k) with h | h
      · exact h
      · rw [h] at hsplit; rw [Nat.pow_succ] at hsplit; omega
    simp [this]

theorem shiftToTargetExponent_eq (m : Nat) (e : Int) :
    shiftToTargetExponent Format.binary64 m e .exact =
      ((⟨m, false, false⟩ : ExtendedMantissa) >>>
          (Format.binary64.targetExponent (totalExponent m e) - e).toNat,
        e + ((Format.binary64.targetExponent (totalExponent m e) - e).toNat : Int)) :=
  rfl

/-- A mantissa that rounding carried up to `2^53` is shifted once more, exactly. -/
theorem shiftToTargetExponent_carry {t : Int} (ht : -1074 ≤ t) :
    shiftToTargetExponent Format.binary64 (2 ^ 53) t .exact = (⟨2 ^ 52, false, false⟩, t + 1) := by
  rw [shiftToTargetExponent_eq, targetExponent_eq, Nat.log2_two_pow]
  have hone : (Max.max (((53 : Nat) : Int) + t - 52) (-1074) - t).toNat = 1 := by omega
  rw [hone]
  show (ExtendedMantissa.shiftRightOne ⟨2 ^ 53, false, false⟩, t + ((1 : Nat) : Int)) = _
  simp [ExtendedMantissa.shiftRightOne]

/-- **Rounding to nearest.**  Rounding `m · 2^e`, for an exponent no less than the least, gives a
canonical number whose ticks are `R · 2^j`: `2^j` is the unit of its binade, one tick or else at
most a `2^-52`-th of the value, and `R` is the quotient of the exact ticks by that unit or one
more, the quotient itself when the remainder is below half a unit. -/
theorem round_ticks (s : Sign) {m : Nat} {e : Int} (hm : 0 < m) (he : -1074 ≤ e) :
    ∃ M T hM j R, UnpackedFloat.round Format.binary64 s m e = .finite s M T hM ∧ Canonical M T ∧
      ticks M T = R * 2 ^ j ∧ ticks m e / 2 ^ j ≤ R ∧ R ≤ ticks m e / 2 ^ j + 1 ∧
      (2 * (ticks m e % 2 ^ j) < 2 ^ j → R = ticks m e / 2 ^ j) ∧
      (j = 0 ∨ 2 ^ 52 * 2 ^ j ≤ ticks m e) := by
  by_cases hsmall : m < 2 ^ 53
  · obtain ⟨M, T, hM, hr, hc, -, hticks⟩ := round_exact s hm hsmall he
    exact ⟨M, T, hM, 0, ticks m e, hr, hc, by simp [hticks], by simp, by simp, fun _ => by simp,
      .inl rfl⟩
  -- a longer mantissa is shifted right by `k` bits to the target exponent `t = e + k`
  have hlog : 53 ≤ m.log2 := (Nat.le_log2 hm.ne').mpr (by omega)
  have htarget : Format.binary64.targetExponent (totalExponent m e) = e + (m.log2 - 52 : Nat) := by
    rw [targetExponent_eq]; omega
  set k := m.log2 - 52 with hk
  have hround : UnpackedFloat.round Format.binary64 s m e =
      roundWithAccuracy Format.binary64 s m e .exact := by
    have hzero : (e - (e + (k : Int))).toNat = 0 := by omega
    simp only [UnpackedFloat.round, decreaseExponent, htarget, hzero, Nat.shiftLeft_zero]
    simp
  have hfirst : shiftToTargetExponent Format.binary64 m e .exact =
      ((⟨m, false, false⟩ : ExtendedMantissa) >>> k, e + k) := by
    rw [shiftToTargetExponent_eq, htarget]
    congr 2 <;> omega
  obtain ⟨hlo, hhi, hnear⟩ := rounded_shiftRight m k
  -- the kept part has 53 bits
  have hq₁ : 2 ^ 52 ≤ m / 2 ^ k := by
    rw [Nat.le_div_iff_mul_le (Nat.two_pow_pos k), ← Nat.pow_add]
    exact le_trans (Nat.pow_le_pow_right (by decide) (by omega)) (Nat.log2_self_le hm.ne')
  have hq₂ : m / 2 ^ k < 2 ^ 53 := by
    rw [Nat.div_lt_iff_lt_mul (Nat.two_pow_pos k), ← Nat.pow_add]
    exact lt_of_lt_of_le Nat.lt_log2_self (Nat.pow_le_pow_right (by decide) (by omega))
  -- ticks of the exact value against the unit `2^j` of the target exponent
  have hj : 2 ^ (e + k + 1074).toNat = 2 ^ k * 2 ^ (e + 1074).toNat := by
    rw [← Nat.pow_add]; congr 1; omega
  have hdiv : ticks m e / 2 ^ (e + k + 1074).toNat = m / 2 ^ k := by
    rw [hj, ticks, Nat.mul_div_mul_right _ _ (Nat.two_pow_pos _)]
  have hmod : ticks m e % 2 ^ (e + k + 1074).toNat = m % 2 ^ k * 2 ^ (e + 1074).toNat := by
    rw [hj, ticks, Nat.mul_mod_mul_right]
  have hunit : 2 ^ 52 * 2 ^ (e + k + 1074).toNat ≤ ticks m e := by
    rw [hj, ticks, ← Nat.mul_assoc]
    exact Nat.mul_le_mul_right _ ((Nat.le_div_iff_mul_le (Nat.two_pow_pos k)).mp hq₁)
  have hnear' : 2 * (ticks m e % 2 ^ (e + k + 1074).toNat) < 2 ^ (e + k + 1074).toNat →
      ((⟨m, false, false⟩ : ExtendedMantissa) >>> k).roundedMantissa =
        ticks m e / 2 ^ (e + k + 1074).toNat := by
    intro h
    rw [hdiv]
    apply hnear
    rw [hmod, hj, ← Nat.mul_assoc] at h
    exact Nat.lt_of_mul_lt_mul_right h
  rw [hround]
  rcases Nat.lt_or_ge ((⟨m, false, false⟩ : ExtendedMantissa) >>> k).roundedMantissa (2 ^ 53)
    with hR | hR
  · -- no carry: the rounded mantissa is already canonical
    have hRpos : 0 < ((⟨m, false, false⟩ : ExtendedMantissa) >>> k).roundedMantissa := by omega
    refine ⟨_, e + k, hRpos, (e + k + 1074).toNat, _, ?_, ⟨hR, by omega, .inl (by omega)⟩,
      rfl, by rw [hdiv]; exact hlo, by rw [hdiv]; exact hhi, hnear', .inr hunit⟩
    simp only [roundWithAccuracy, hfirst, shiftToTargetExponent_small hR (by omega : -1074 ≤ e + k)]
    rw [dif_neg hRpos.ne']
  · -- a carry to `2^53`: one more exact shift
    have hR' : ((⟨m, false, false⟩ : ExtendedMantissa) >>> k).roundedMantissa = 2 ^ 53 := by
      omega
    refine ⟨2 ^ 52, e + k + 1, by decide, (e + k + 1074).toNat, _, ?_, ⟨by decide, by omega,
      .inl le_rfl⟩, ?_, by rw [hdiv]; exact hlo, by rw [hdiv]; exact hhi, hnear', .inr hunit⟩
    · simp only [roundWithAccuracy, hfirst, hR', shiftToTargetExponent_carry (by omega : -1074 ≤ e + k)]
      rfl
    · rw [hR', ticks, show (e + k + 1 + 1074).toNat = (e + k + 1074).toNat + 1 by omega,
        Nat.pow_succ]
      ring

/-! ### Rounded magnitudes -/

/-- `b` ticks are `a` ticks rounded to nearest at some unit `2^j`: one tick, or a unit at most a
`2^-52`-th of `a`, as `round_ticks` finds it. -/
def Rounded (a b : Nat) : Prop :=
  ∃ j R, b = R * 2 ^ j ∧ a / 2 ^ j ≤ R ∧ R ≤ a / 2 ^ j + 1 ∧
    (2 * (a % 2 ^ j) < 2 ^ j → R = a / 2 ^ j) ∧ (j = 0 ∨ 2 ^ 52 * 2 ^ j ≤ a)

/-- A number of ticks `Y · 2^i` with `Y` of at most 53 bits, as every finite number has. -/
def Representable (W : Nat) : Prop := ∃ Y i, Y < 2 ^ 53 ∧ W = Y * 2 ^ i

theorem rounded_refl (a : Nat) : Rounded a a :=
  ⟨0, a, by simp, by simp, by simp, fun _ => by simp, .inl rfl⟩

theorem representable_ticks {M : Nat} {T : Int} (hc : Canonical M T) : Representable (ticks M T) :=
  ⟨M, (T + 1074).toNat, hc.1, rfl⟩

/-- Rounding to nearest never crosses a representable bound from below. -/
theorem Rounded.le_of_le {a b W : Nat} (h : Rounded a b) (hW : Representable W) (ha : a ≤ W) :
    b ≤ W := by
  obtain ⟨j, R, rfl, -, hhi, hnear, hunit⟩ := h
  obtain ⟨Y, i, hY, rfl⟩ := hW
  have hu := Nat.two_pow_pos j
  by_cases hij : j ≤ i
  · -- the bound is a whole number `N` of units
    have hN : Y * 2 ^ i = Y * 2 ^ (i - j) * 2 ^ j := by
      rw [Nat.mul_assoc, ← Nat.pow_add, Nat.sub_add_cancel hij]
    rw [hN] at ha ⊢
    apply Nat.mul_le_mul_right
    have hq : a / 2 ^ j ≤ Y * 2 ^ (i - j) := Nat.div_le_of_le_mul (by rw [Nat.mul_comm]; exact ha)
    rcases Nat.lt_or_ge (a / 2 ^ j) (Y * 2 ^ (i - j)) with hlt | hge
    · omega
    · -- the exact value is the bound itself, so nothing is rounded up
      have hdm := Nat.div_add_mod a (2 ^ j)
      have hexact : a % 2 ^ j = 0 := by
        have : 2 ^ j * (a / 2 ^ j) ≥ Y * 2 ^ (i - j) * 2 ^ j := by
          rw [Nat.mul_comm]; exact Nat.mul_le_mul_right _ hge
        omega
      rw [hnear (by omega)]
      exact hq
  · -- a bound finer than the unit lies below the binade of the exact value
    exfalso
    have hj : 2 ^ 52 * 2 ^ j ≤ a := hunit.resolve_left (by omega)
    have : Y * 2 ^ i < 2 ^ 52 * 2 ^ j := by
      calc Y * 2 ^ i < 2 ^ 53 * 2 ^ i := Nat.mul_lt_mul_of_pos_right hY (Nat.two_pow_pos i)
        _ = 2 ^ 52 * 2 ^ (i + 1) := by rw [Nat.pow_succ]; ring
        _ ≤ 2 ^ 52 * 2 ^ j := Nat.mul_le_mul_left _ (Nat.pow_le_pow_right (by decide) (by omega))
    omega

/-- Rounding to nearest is off by at most half a unit upward. -/
theorem Rounded.le_add_half {a b : Nat} (h : Rounded a b) :
    ∃ j, 2 * b ≤ 2 * a + 2 ^ j ∧ (j = 0 ∨ 2 ^ 52 * 2 ^ j ≤ a) := by
  obtain ⟨j, R, rfl, -, hhi, hnear, hunit⟩ := h
  refine ⟨j, ?_, hunit⟩
  have hdm := Nat.div_add_mod a (2 ^ j)
  have hml := Nat.mod_lt a (Nat.two_pow_pos j)
  by_cases hh : 2 * (a % 2 ^ j) < 2 ^ j
  · rw [hnear hh]
    have : a / 2 ^ j * 2 ^ j ≤ a := Nat.div_mul_le_self a _
    omega
  · have : R * 2 ^ j ≤ (a / 2 ^ j + 1) * 2 ^ j := Nat.mul_le_mul_right _ hhi
    rw [Nat.add_mul, Nat.one_mul, Nat.mul_comm (a / 2 ^ j)] at this
    omega

/-- Rounding stays below `2^54 · 2^p` ticks as long as the exact value stays below
`(2^54 - 1) · 2^p`, half a unit of the binade `[2^53 · 2^p, 2^54 · 2^p)` below its top.  At
`p = 2044` this is the midpoint between the largest finite number and `2^1024`. -/
theorem Rounded.lt_of_lt (p : Nat) {a b : Nat} (h : Rounded a b)
    (ha : a < (2 ^ 54 - 1) * 2 ^ p) : b < 2 ^ 54 * 2 ^ p := by
  obtain ⟨j, hhalf, hunit⟩ := h.le_add_half
  -- the unit is at most `2^(p+1)`, or at least `2^(p+2)` and then the value is past the top
  have hsplit : 2 ^ j ≤ 2 ^ p * 2 ∨ (2 ^ p * 2 * 2 ≤ 2 ^ j ∧ j ≠ 0) := by
    rcases Nat.lt_or_ge j (p + 2) with hj | hj
    · left
      rw [← Nat.pow_succ]
      exact Nat.pow_le_pow_right (by decide) (by omega)
    · right
      rw [← Nat.pow_succ, ← Nat.pow_succ]
      exact ⟨Nat.pow_le_pow_right (by decide) hj, by omega⟩
  rcases hsplit with hu | ⟨hu, hj⟩
  · generalize (2 : Nat) ^ p = P at *
    omega
  · have hunit' := hunit.resolve_left hj
    generalize (2 : Nat) ^ p = P at *
    generalize (2 : Nat) ^ j = u at *
    omega

/-- A canonical number below `2^54 · 2^p` ticks has its exponent field at most `p + 1`. -/
theorem exponent_le_of_ticks_lt {M : Nat} {T : Int} (p : Nat) (hc : Canonical M T)
    (h : ticks M T < 2 ^ 54 * 2 ^ p) : (T + 1074).toNat ≤ p + 1 := by
  by_contra hT
  have hM : 2 ^ 52 ≤ M := hc.2.2.resolve_right (by omega)
  have hpow : 2 ^ p * 2 * 2 ≤ 2 ^ (T + 1074).toNat := by
    rw [← Nat.pow_succ, ← Nat.pow_succ]
    exact Nat.pow_le_pow_right (by decide) (by omega)
  have : 2 ^ 52 * (2 ^ p * 2 * 2) ≤ ticks M T := Nat.mul_le_mul hM hpow
  generalize (2 : Nat) ^ p = P at *
  omega

/-- A canonical number whose exponent field is at most `p + 1` is below `(2^54 - 2) · 2^p`
ticks. -/
theorem ticks_le_of_exponent_le {M : Nat} {T : Int} (p : Nat) (hc : Canonical M T)
    (hT : (T + 1074).toNat ≤ p + 1) : ticks M T ≤ (2 ^ 54 - 2) * 2 ^ p := by
  have hpow : 2 ^ (T + 1074).toNat ≤ 2 ^ p * 2 := by
    rw [← Nat.pow_succ]
    exact Nat.pow_le_pow_right (by decide) hT
  have : ticks M T ≤ (2 ^ 53 - 1) * (2 ^ p * 2) := Nat.mul_le_mul (by have := hc.1; omega) hpow
  generalize (2 : Nat) ^ p = P at *
  omega

/-- A canonical number with its exponent field `53` below `p` is below `2^p` ticks. -/
theorem ticks_lt_two_pow {M : Nat} {T : Int} (hc : Canonical M T) (p : Nat)
    (h : (T + 1074).toNat + 53 ≤ p) : ticks M T < 2 ^ p :=
  calc ticks M T < 2 ^ 53 * 2 ^ (T + 1074).toNat :=
        Nat.mul_lt_mul_of_pos_right hc.1 (Nat.two_pow_pos _)
    _ = 2 ^ (53 + (T + 1074).toNat) := (Nat.pow_add 2 53 _).symm
    _ ≤ 2 ^ p := Nat.pow_le_pow_right (by decide) (by omega)

theorem ticks_succ (m : Nat) {e : Int} (he : -1074 ≤ e) : ticks m (e + 1) = 2 * ticks m e := by
  unfold ticks
  rw [show (e + 1 + 1074).toNat = (e + 1074).toNat + 1 by omega, Nat.pow_succ]
  ring

/-! ### Sums and differences -/

/-- The sign of an integer, zero counted positive. -/
def signOf (v : Int) : Sign := if v < 0 then .negative else .positive

/-- `u` is binary64's rounding of the exact value of `v` ticks: a zero when `v` is zero, and
otherwise a number of the sign of `v` whose magnitude is `|v|` rounded to nearest, finite below
`2^1024` (`2^54 · 2^2044` ticks) and an infinity from there on. -/
def RoundsTo (v : Int) : UnpackedFloat → Prop
  | .zero _ => v = 0
  | .finite s M T _ => v ≠ 0 ∧ s = signOf v ∧ Canonical M T ∧ T ≤ 971 ∧ Rounded v.natAbs (ticks M T)
  | .infinity s => v ≠ 0 ∧ s = signOf v ∧ ∃ b, Rounded v.natAbs b ∧ 2 ^ 54 * 2 ^ 2044 ≤ b
  | .notANumber => False

theorem signOf_apply (s : Sign) {n : Nat} (hn : 0 < n) : signOf (s.apply n) = s := by
  cases s
  · show (if -(n : Int) < 0 then Sign.negative else .positive) = .negative
    rw [if_pos (by omega)]
  · show (if (n : Int) < 0 then Sign.negative else .positive) = .positive
    rw [if_neg (by omega)]

theorem apply_ne_zero (s : Sign) {n : Nat} (hn : 0 < n) : s.apply n ≠ 0 := by
  cases s <;> simp only [Sign.apply] <;> omega

theorem natAbs_apply (s : Sign) (n : Nat) : (s.apply n).natAbs = n := by
  cases s <;> simp [Sign.apply]

theorem roundsTo_finite (s : Sign) {M : Nat} {T : Int} (hM : 0 < M) (hc : Canonical M T)
    (hT : T ≤ 971) : RoundsTo (s.apply (ticks M T)) (.finite s M T hM) := by
  have hpos := ticks_pos hM T
  refine ⟨apply_ne_zero s hpos, (signOf_apply s hpos).symm, hc, hT, ?_⟩
  rw [natAbs_apply]
  exact rounded_refl _

/-- A finite number of the format is its own rounding. -/
theorem roundsTo_self {x : Float} (hx : x.isFinite = true) :
    RoundsTo (signedTicks x.toModel.unpack) x.toModel.unpack := by
  have hxf : x.toModel.unpack.isFinite = true := hx
  cases hu : x.toModel.unpack with
  | zero s => rfl
  | finite s M T hM =>
    obtain ⟨hc, hT⟩ := unpack_canonical hu
    exact roundsTo_finite s hM hc hT
  | infinity s => rw [hu] at hxf; cases hxf
  | notANumber => rw [hu] at hxf; cases hxf

/-- Rounding `n · 2^e` ticks' worth of integer mantissa and packing it gives its rounding. -/
theorem roundsTo_normalize {n : Int} {e : Int} (he : -1074 ≤ e) (z : Sign) :
    RoundsTo (n * 2 ^ (e + 1074).toNat)
      (Float.Model.pack (UnpackedFloat.normalize Format.binary64 n e z)).unpack := by
  -- the magnitude `|n|` is rounded with the sign of `n`
  have key : ∀ s : Sign, n ≠ 0 → signOf (n * 2 ^ (e + 1074).toNat) = s →
      RoundsTo (n * 2 ^ (e + 1074).toNat)
        (Float.Model.pack (UnpackedFloat.round Format.binary64 s n.natAbs e)).unpack := by
    intro s hn hs
    have hm : 0 < n.natAbs := Int.natAbs_pos.mpr hn
    have hv : (n * 2 ^ (e + 1074).toNat).natAbs = ticks n.natAbs e := by
      rw [Int.natAbs_mul, Int.natAbs_pow]; rfl
    have hv0 : n * 2 ^ (e + 1074).toNat ≠ 0 := mul_ne_zero hn (by positivity)
    obtain ⟨M, T, hM, j, R, hround, hc, hticks, hlo, hhi, hnear, hunit⟩ := round_ticks s hm he
    have hR : Rounded (n * 2 ^ (e + 1074).toNat).natAbs (ticks M T) := by
      rw [hv]; exact ⟨j, R, hticks, hlo, hhi, hnear, hunit⟩
    rw [hround]
    by_cases hT : T ≤ 971
    · rw [show (Float.Model.pack (.finite s M T hM)).unpack = .finite s M T hM from
        unpack_pack_canonical s hM hc hT]
      exact ⟨hv0, hs.symm, hc, hT, hR⟩
    · rw [unpack_pack_overflow s hM (by omega)]
      refine ⟨hv0, hs.symm, ticks M T, hR, ?_⟩
      by_contra hlt
      have h1 := exponent_le_of_ticks_lt 2044 hc (Nat.lt_of_not_le hlt)
      clear hlt hR
      omega
  unfold UnpackedFloat.normalize
  rcases lt_trichotomy n 0 with hn | rfl | hn
  · rw [show compare n 0 = .lt from Int.compare_eq_lt.mpr hn]
    have : n.natAbs = (-n).toNat := by omega
    rw [← this]
    refine key .negative hn.ne ?_
    simp only [signOf]
    rw [if_pos]
    exact Int.mul_neg_of_neg_of_pos hn (by positivity)
  · show RoundsTo _ (Float.Model.pack (.zero z)).unpack
    rw [unpack_pack_zero]
    simp [RoundsTo]
  · rw [show compare n 0 = .gt from Int.compare_eq_gt.mpr hn]
    have : n.natAbs = n.toNat := by omega
    rw [← this]
    refine key .positive hn.ne' ?_
    simp only [signOf]
    rw [if_neg]
    exact not_lt.mpr (by positivity)

/-- Two finite numbers are subtracted as integer mantissas at the smaller exponent. -/
theorem sub_finite (s₁ s₂ : Sign) {m₁ m₂ : Nat} {e₁ e₂ : Int} (h₁ : 0 < m₁) (h₂ : 0 < m₂)
    (he₁ : -1074 ≤ e₁) (he₂ : -1074 ≤ e₂) :
    ∃ n : Int, n * 2 ^ (Min.min e₁ e₂ + 1074).toNat =
        s₁.apply (ticks m₁ e₁) - s₂.apply (ticks m₂ e₂) ∧
      UnpackedFloat.sub Format.binary64 (.finite s₁ m₁ e₁ h₁) (.finite s₂ m₂ e₂ h₂) =
        UnpackedFloat.normalize Format.binary64 n (Min.min e₁ e₂) .positive := by
  have h₀ : -1074 ≤ Min.min e₁ e₂ := le_min he₁ he₂
  refine ⟨_, ?_, rfl⟩
  rw [← ticks_shiftLeft m₁ h₀ (min_le_left e₁ e₂), ← ticks_shiftLeft m₂ h₀ (min_le_right e₁ e₂)]
  simp only [ticks, Int.sub_mul, Nat.cast_mul, Nat.cast_pow, Nat.cast_ofNat, apply_mul]

/-- **Sums are rounded.**  The sum of two finite numbers is the rounding of the sum of their
ticks. -/
theorem add_roundsTo {x y : Float} (hx : x.isFinite = true) (hy : y.isFinite = true) :
    RoundsTo (signedTicks x.toModel.unpack + signedTicks y.toModel.unpack) (x + y).toModel.unpack := by
  have hxf : x.toModel.unpack.isFinite = true := hx
  have hyf : y.toModel.unpack.isFinite = true := hy
  have hxs := roundsTo_self hx
  have hys := roundsTo_self hy
  show RoundsTo _ (Float.Model.pack (UnpackedFloat.add _ x.toModel.unpack y.toModel.unpack)).unpack
  cases hux : x.toModel.unpack with
  | infinity s => rw [hux] at hxf; cases hxf
  | notANumber => rw [hux] at hxf; cases hxf
  | zero s₁ =>
    cases huy : y.toModel.unpack with
    | infinity s => rw [huy] at hyf; cases hyf
    | notANumber => rw [huy] at hyf; cases hyf
    | zero s₂ =>
      simp only [UnpackedFloat.add]
      split <;> rw [unpack_pack_zero] <;> rfl
    | finite s₂ M₂ T₂ h₂ =>
      -- adding a zero leaves the other number
      show RoundsTo _ (Float.Model.pack (.finite s₂ M₂ T₂ h₂)).unpack
      rw [← huy, model_pack_unpack, huy]
      rw [huy] at hys
      simpa [signedTicks] using hys
  | finite s₁ M₁ T₁ h₁ =>
    cases huy : y.toModel.unpack with
    | infinity s => rw [huy] at hyf; cases hyf
    | notANumber => rw [huy] at hyf; cases hyf
    | zero s₂ =>
      show RoundsTo _ (Float.Model.pack (.finite s₁ M₁ T₁ h₁)).unpack
      rw [← hux, model_pack_unpack, hux]
      rw [hux] at hxs
      simpa [signedTicks] using hxs
    | finite s₂ M₂ T₂ h₂ =>
      obtain ⟨⟨-, he₁, -⟩, -⟩ := unpack_canonical hux
      obtain ⟨⟨-, he₂, -⟩, -⟩ := unpack_canonical huy
      obtain ⟨n, hn, hadd⟩ := add_finite s₁ s₂ h₁ h₂ he₁ he₂
      rw [hadd, signedTicks_finite, signedTicks_finite, ← hn]
      exact roundsTo_normalize (le_min he₁ he₂) _

theorem zero_sub_apply (s : Sign) (t : Int) : 0 - s.apply t = (-s).apply t := by
  cases s <;> simp [Sign.apply]

/-- **Differences are rounded.**  The difference of two finite numbers is the rounding of the
difference of their ticks. -/
theorem sub_roundsTo {x y : Float} (hx : x.isFinite = true) (hy : y.isFinite = true) :
    RoundsTo (signedTicks x.toModel.unpack - signedTicks y.toModel.unpack) (x - y).toModel.unpack := by
  have hxf : x.toModel.unpack.isFinite = true := hx
  have hyf : y.toModel.unpack.isFinite = true := hy
  have hxs := roundsTo_self hx
  show RoundsTo _ (Float.Model.pack (UnpackedFloat.sub _ x.toModel.unpack y.toModel.unpack)).unpack
  cases hux : x.toModel.unpack with
  | infinity s => rw [hux] at hxf; cases hxf
  | notANumber => rw [hux] at hxf; cases hxf
  | zero s₁ =>
    cases huy : y.toModel.unpack with
    | infinity s => rw [huy] at hyf; cases hyf
    | notANumber => rw [huy] at hyf; cases hyf
    | zero s₂ =>
      simp only [UnpackedFloat.sub]
      split <;> rw [unpack_pack_zero] <;> rfl
    | finite s₂ M₂ T₂ h₂ =>
      -- a zero less a number is the number negated
      obtain ⟨hc, hT⟩ := unpack_canonical huy
      show RoundsTo _ (Float.Model.pack (.finite (-s₂) M₂ T₂ h₂)).unpack
      rw [show (Float.Model.pack (.finite (-s₂) M₂ T₂ h₂)).unpack = .finite (-s₂) M₂ T₂ h₂ from
        unpack_pack_canonical _ h₂ hc hT]
      simp only [signedTicks, zero_sub_apply]
      exact roundsTo_finite _ h₂ hc hT
  | finite s₁ M₁ T₁ h₁ =>
    cases huy : y.toModel.unpack with
    | infinity s => rw [huy] at hyf; cases hyf
    | notANumber => rw [huy] at hyf; cases hyf
    | zero s₂ =>
      show RoundsTo _ (Float.Model.pack (.finite s₁ M₁ T₁ h₁)).unpack
      rw [← hux, model_pack_unpack, hux]
      rw [hux] at hxs
      simpa [signedTicks] using hxs
    | finite s₂ M₂ T₂ h₂ =>
      obtain ⟨⟨-, he₁, -⟩, -⟩ := unpack_canonical hux
      obtain ⟨⟨-, he₂, -⟩, -⟩ := unpack_canonical huy
      obtain ⟨n, hn, hsub⟩ := sub_finite s₁ s₂ h₁ h₂ he₁ he₂
      rw [hsub, signedTicks_finite, signedTicks_finite, ← hn]
      exact roundsTo_normalize (le_min he₁ he₂) _

/-- A rounding of a value half a top unit below `2^1024` is finite. -/
theorem RoundsTo.isFinite {v : Int} {u : UnpackedFloat} (h : RoundsTo v u)
    (hv : v.natAbs < (2 ^ 54 - 1) * 2 ^ 2044) : u.isFinite = true := by
  cases u with
  | zero s => rfl
  | finite s M T hM => rfl
  | infinity s =>
    obtain ⟨-, -, b, hb, htop⟩ := h
    exact absurd htop (Nat.not_le_of_lt (hb.lt_of_lt 2044 hv))
  | notANumber => exact h.elim

/-- A rounding stays within every representable bound of the exact value, on its side of
zero. -/
theorem RoundsTo.signedTicks_le {v : Int} {u : UnpackedFloat} {W : Nat} (h : RoundsTo v u)
    (hW : Representable W) (hv : v.natAbs ≤ W) :
    (signedTicks u).natAbs ≤ W ∧ (0 ≤ v → 0 ≤ signedTicks u) ∧ (v ≤ 0 → signedTicks u ≤ 0) := by
  cases u with
  | zero s =>
    simp [signedTicks]
  | finite s M T hM =>
    obtain ⟨hv0, rfl, -, -, hR⟩ := h
    rw [signedTicks_finite, natAbs_apply]
    refine ⟨hR.le_of_le hW hv, fun h0 => ?_, fun h0 => ?_⟩
    · rw [show signOf v = .positive from if_neg (by omega)]
      exact Int.natCast_nonneg _
    · rw [show signOf v = .negative from if_pos (by omega)]
      simp [Sign.apply]
  | infinity s => simp [signedTicks]
  | notANumber => exact h.elim

/-- A finite number's ticks stay half a top unit below `2^1024`. -/
theorem natAbs_signedTicks_le {x : Float} (hx : x.isFinite = true) :
    (signedTicks x.toModel.unpack).natAbs ≤ (2 ^ 54 - 2) * 2 ^ 2044 := by
  have hxf : x.toModel.unpack.isFinite = true := hx
  cases hu : x.toModel.unpack with
  | zero s => exact Nat.zero_le _
  | finite s M T hM =>
    obtain ⟨hc, hT⟩ := unpack_canonical hu
    rw [signedTicks_finite, natAbs_apply]
    exact ticks_le_of_exponent_le 2044 hc (by omega)
  | infinity s => rw [hu] at hxf; cases hxf
  | notANumber => rw [hu] at hxf; cases hxf

end SailSim.Binary64
