import Mathlib
import SailSim.Proofs.Binary64.Positive
import SailSim.Binary64.Shortest

/-!
# Values in a rounding interval

Rounding to nearest sends every exact value of an interval around a finite positive number
`m · 2^q` to that number: the values within half a unit `2^(q-1)` of it, only a quarter unit
below when `m` is the least mantissa of a binade above the least (the number below is then
closer), the ends included when `m` is even. `Binary64.roundingInterval` gives these ends in
quarter units `2^(q-2)`, and `Binary64.Within` reads them as rational bounds.

A rounding step sees the exact value only through a mantissa at an exponent and two residual
bits. `Binary64.Halves w em` says what they tell of a value that measures `w` half units of
the mantissa's last place. Main results:

* `Binary64.Halves.shiftRight` : shifting the mantissa right keeps the description, the
  value halving with each bit;
* `Binary64.Halves.roundedMantissa_eq` : a described value within one half unit of `2n`
  rounds to `n`, a tie only when `n` is even;
* `Binary64.target_of_within` : a value in the rounding interval of `m · 2^q` sits in the
  binade of `2^q`'s mantissas, or just below it when `m` starts its binade;
* **`Binary64.roundWithAccuracy_of_within`** : a value described at an exponent no higher than
  its target rounds to `m · 2^q` when it lies in that number's rounding interval.
-/

namespace SailSim.Binary64

open Float.Model Float.Model.UnpackedFloat

/-! ### Describing an exact value -/

/-- What the extended mantissa `em` says of an exact value that measures `w` half units of its
last place: `w` lies in `[2M, 2M + 2)` for the mantissa `M`, the round bit is set when `w` is
at least `2M + 1`, and the sticky bit when `w` lies off the point, `2M` or `2M + 1`, that the
round bit names. -/
structure Halves (w : ℚ) (em : ExtendedMantissa) : Prop where
  lower : 2 * (em.mantissa : ℚ) ≤ w
  upper : w < 2 * (em.mantissa : ℚ) + 2
  round : em.roundBit = true ↔ 2 * (em.mantissa : ℚ) + 1 ≤ w
  sticky : em.stickyBit = true ↔ w ≠ 2 * (em.mantissa : ℚ) + if em.roundBit then 1 else 0

/-- Dropping one bit halves the measure: the dropped bit becomes the round bit, and the old
residual bits the sticky one. -/
theorem Halves.shiftRightOne {w : ℚ} {em : ExtendedMantissa} (h : Halves w em) :
    Halves (w / 2) em.shiftRightOne := by
  obtain ⟨M, r, s⟩ := em
  obtain ⟨hlo, hhi, hr, hs⟩ := h
  dsimp only at hlo hhi hr hs
  -- the old point `2M` is `4 (M / 2) + 2b` for the dropped bit `b`
  set b : ℚ := ((M % 2 : ℕ) : ℚ) with hb_def
  have hM : (M : ℚ) = 2 * ((M / 2 : ℕ) : ℚ) + b := by
    rw [hb_def]
    exact_mod_cast (Nat.div_add_mod M 2).symm
  have hbit : ((if (M % 2 != 0) = true then 1 else 0) : ℚ) = b := by
    rcases Nat.mod_two_eq_zero_or_one M with h2 | h2 <;> simp [hb_def, h2]
  have hb0 : 0 ≤ b := Nat.cast_nonneg _
  have hb1 : b ≤ 1 := by
    rw [hb_def]; exact_mod_cast Nat.le_of_lt_succ (Nat.mod_lt M (by decide))
  -- the value was on the old point exactly when neither residual bit was set
  have hsticky : (r || s) = true ↔ w ≠ 2 * M := by
    cases r
    · simpa using hs
    · simp only [Bool.true_or, true_iff]
      intro h
      have := hr.1 rfl
      linarith
  show Halves (w / 2) ⟨M / 2, M % 2 != 0, r || s⟩
  refine ⟨?_, ?_, ?_, ?_⟩ <;> dsimp only
  · linarith
  · linarith
  · rcases Nat.mod_two_eq_zero_or_one M with h2 | h2 <;>
      simp only [hb_def, h2, Nat.cast_zero, Nat.cast_one] at hM ⊢
    · simp only [bne_self_eq_false, Bool.false_eq_true, false_iff, not_le]
      linarith
    · simp only [show (1 != 0) = true from rfl, true_iff]
      linarith
  · rw [hsticky, hbit, hM]
    constructor <;> intro h h' <;> apply h <;> linarith

/-- Shifting right by `k` bits divides the measure by `2^k`. -/
theorem Halves.shiftRight {w : ℚ} {em : ExtendedMantissa} (h : Halves w em) (k : Nat) :
    Halves (w / 2 ^ k) (em >>> k) := by
  induction k with
  | zero =>
    rw [pow_zero, div_one]
    exact h
  | succ k ih =>
    have hw : w / 2 ^ (k + 1) = w / 2 ^ k / 2 := by rw [pow_succ, div_div]
    rw [hw]
    exact ih.shiftRightOne

/-- A described value within one half unit of `2n` rounds to `n`; at exactly one half unit
only when `n` is even. -/
theorem Halves.roundedMantissa_eq {w : ℚ} {em : ExtendedMantissa} (h : Halves w em) {n : Nat}
    (hlo : 2 * (n : ℚ) - 1 < w ∨ 2 * (n : ℚ) - 1 = w ∧ n % 2 = 0)
    (hhi : w < 2 * (n : ℚ) + 1 ∨ w = 2 * (n : ℚ) + 1 ∧ n % 2 = 0) :
    em.roundedMantissa = n := by
  obtain ⟨M, r, s⟩ := em
  obtain ⟨hl, hu, hr, hs⟩ := h
  dsimp only at hl hu hr hs
  have hw0 : 2 * (n : ℚ) - 1 ≤ w := by rcases hlo with h | ⟨h, -⟩ <;> linarith
  have hw1 : w ≤ 2 * (n : ℚ) + 1 := by rcases hhi with h | ⟨h, -⟩ <;> linarith
  -- `n` is the mantissa or the next one up
  have hMn : M < n + 1 := by
    have : (M : ℚ) < n + 1 := by linarith
    exact_mod_cast this
  have hnM : n < M + 2 := by
    have : (n : ℚ) < M + 2 := by linarith
    exact_mod_cast this
  cases r with
  | false =>
    -- below the midpoint the mantissa stays
    have hw : w < 2 * M + 1 := by simpa using hr
    have : n < M + 1 := by
      have : (n : ℚ) < M + 1 := by linarith
      exact_mod_cast this
    have hround : ExtendedMantissa.roundedMantissa ⟨M, false, s⟩ = M := by cases s <;> rfl
    rw [hround]
    omega
  | true =>
    have hw : 2 * (M : ℚ) + 1 ≤ w := hr.1 rfl
    cases s with
    | false =>
      -- on the midpoint the even neighbour wins
      have hmid : w = 2 * M + 1 := by simpa using hs
      show M + M % 2 = n
      rcases Nat.lt_or_ge n (M + 1) with hn | hn
      · have hn' : n = M := by omega
        subst hn'
        rcases hhi with h | ⟨-, heven⟩
        · linarith
        · omega
      · have hn' : n = M + 1 := by omega
        subst hn'
        rcases hlo with h | ⟨-, heven⟩
        · push_cast at h
          linarith
        · omega
    | true =>
      -- above the midpoint the mantissa goes up
      have hne : w ≠ 2 * M + 1 := by simpa using hs
      have hgt : 2 * (M : ℚ) + 1 < w := lt_of_le_of_ne hw (Ne.symm hne)
      have : M < n := by
        have : (M : ℚ) < n := by linarith
        exact_mod_cast this
      show M + 1 = n
      omega

/-- A value that is exactly `2m` half units is described by `m` with no residual bits. -/
theorem halves_exact (m : Nat) : Halves (2 * (m : ℚ)) ⟨m, false, false⟩ :=
  ⟨le_rfl, by linarith, by simp, by simp⟩

/-- The quotient `a / b` with the accuracy of its remainder describes `2a / b` half units. -/
theorem halves_quotient (a : Nat) {b : Nat} (hb : 0 < b) :
    Halves (2 * ((a : ℚ) / b))
      (ExtendedMantissa.ofMantissaAndAccuracy (a / b) (accuracyOfFraction (a % b) b)) := by
  have hbq : (0 : ℚ) < b := by exact_mod_cast hb
  have hdiv : (a : ℚ) / b = ((a / b : ℕ) : ℚ) + ((a % b : ℕ) : ℚ) / b := by
    have h : ((a / b : ℕ) : ℚ) * b + ((a % b : ℕ) : ℚ) = a := by
      exact_mod_cast Nat.div_add_mod' a b
    field_simp
    linarith
  have hr : ((a % b : ℕ) : ℚ) < b := by exact_mod_cast Nat.mod_lt a hb
  set Q := a / b
  set r := a % b
  have hfrac : 0 ≤ ((r : ℕ) : ℚ) / b := by positivity
  have hfrac1 : ((r : ℕ) : ℚ) / b < 1 := (div_lt_one hbq).2 hr
  -- the remainder against half the divisor gives the residual bits
  unfold accuracyOfFraction
  by_cases h0 : r = 0
  · rw [if_pos h0]
    simp only [ExtendedMantissa.ofMantissaAndAccuracy]
    rw [hdiv, h0]
    simpa using halves_exact Q
  rw [if_neg h0]
  have hpos : 0 < ((r : ℕ) : ℚ) / b := by
    have : (0 : ℚ) < r := by exact_mod_cast Nat.pos_of_ne_zero h0
    positivity
  have hhalf : ∀ o : Ordering, compare (2 * r) b = o →
      (o = .lt ↔ ((r : ℕ) : ℚ) / b < 1 / 2) ∧ (o = .eq ↔ ((r : ℕ) : ℚ) / b = 1 / 2) := by
    intro o ho
    rw [div_lt_iff₀ hbq, div_eq_iff hbq.ne']
    constructor
    · rw [← ho, compare_lt_iff_lt]
      constructor <;> intro h
      · have : ((2 * r : ℕ) : ℚ) < b := by exact_mod_cast h
        push_cast at this; linarith
      · have : ((2 * r : ℕ) : ℚ) < b := by push_cast; linarith
        exact_mod_cast this
    · rw [← ho, compare_eq_iff_eq]
      constructor <;> intro h
      · have : ((2 * r : ℕ) : ℚ) = b := by exact_mod_cast h
        push_cast at this; linarith
      · have : ((2 * r : ℕ) : ℚ) = b := by push_cast; linarith
        exact_mod_cast this
  rcases hc : compare (2 * r) b with _ | _ | _
  · obtain ⟨hlt, -⟩ := hhalf .lt hc
    have := hlt.1 rfl
    refine ⟨?_, ?_, ?_, ?_⟩ <;> simp only [ExtendedMantissa.ofMantissaAndAccuracy] <;> rw [hdiv]
    · linarith
    · linarith
    · simp only [Bool.false_eq_true, false_iff, not_le]; linarith
    · simp only [Bool.false_eq_true, if_false, add_zero, true_iff]; intro h; linarith
  · obtain ⟨-, heq⟩ := hhalf .eq hc
    have := heq.1 rfl
    refine ⟨?_, ?_, ?_, ?_⟩ <;> simp only [ExtendedMantissa.ofMantissaAndAccuracy] <;> rw [hdiv]
    · linarith
    · linarith
    · simp only [true_iff]; linarith
    · simp only [Bool.false_eq_true, if_true, false_iff, not_not]; linarith
  · obtain ⟨hlt, heq⟩ := hhalf .gt hc
    have h1 : ¬ ((r : ℕ) : ℚ) / b < 1 / 2 := fun h => absurd (hlt.2 h) (by decide)
    have h2 : ¬ ((r : ℕ) : ℚ) / b = 1 / 2 := fun h => absurd (heq.2 h) (by decide)
    have h3 : 1 / 2 < ((r : ℕ) : ℚ) / b := lt_of_le_of_ne (not_lt.1 h1) (Ne.symm h2)
    refine ⟨?_, ?_, ?_, ?_⟩ <;> simp only [ExtendedMantissa.ofMantissaAndAccuracy] <;> rw [hdiv]
    · linarith
    · linarith
    · simp only [true_iff]; linarith
    · simp only [if_true, true_iff]; intro h; linarith

/-- The value a description bounds: between the mantissa and the next one up, in units of the
exponent. -/
theorem Halves.bounds {v : ℚ} {e : Int} {em : ExtendedMantissa} (h : Halves (2 * v / 2 ^ e) em) :
    (em.mantissa : ℚ) * 2 ^ e ≤ v ∧ v < ((em.mantissa : ℚ) + 1) * 2 ^ e := by
  have hpos : (0 : ℚ) < 2 ^ e := zpow_pos two_pos e
  have hlo := h.lower
  have hhi := h.upper
  rw [le_div_iff₀ hpos] at hlo
  rw [div_lt_iff₀ hpos] at hhi
  constructor <;> linarith

/-- Shifting a description right by `k` bits describes the same value at exponent `e + k`. -/
theorem Halves.shiftRight_zpow {v : ℚ} {e : Int} {em : ExtendedMantissa}
    (h : Halves (2 * v / 2 ^ e) em) (k : Nat) : Halves (2 * v / 2 ^ (e + k)) (em >>> k) := by
  have := h.shiftRight k
  rwa [div_div, ← zpow_natCast, ← zpow_add₀ two_ne_zero] at this

/-! ### Rounding intervals -/

/-- The numbers of a rounding interval `(lo, hi, closed)`, its ends included when `closed`. -/
def intervalSet : Nat × Nat × Bool → Set ℚ
  | (lo, hi, closed) => if closed then Set.Icc (lo : ℚ) hi else Set.Ioo (lo : ℚ) hi

theorem mem_intervalSet {u : ℚ} {lo hi : Nat} {c : Bool} :
    u ∈ intervalSet (lo, hi, c) ↔
      ((lo : ℚ) < u ∨ c = true ∧ (lo : ℚ) = u) ∧ (u < hi ∨ c = true ∧ u = (hi : ℚ)) := by
  cases c <;> simp [intervalSet, le_iff_lt_or_eq]

/-- What membership in the rounding interval of `mx` says, in quarter units: at most a half
unit from `4 mx`, an end only for even `mx`, and at most a quarter unit below at the bottom of a
binade above the least. -/
theorem near_of_mem {u : ℚ} {mx ef : Nat} (hmx : 0 < mx)
    (h : u ∈ intervalSet (roundingInterval mx ef)) :
    (4 * (mx : ℚ) - 2 < u ∨ mx % 2 = 0 ∧ 4 * (mx : ℚ) - 2 = u) ∧
      (u < 4 * mx + 2 ∨ mx % 2 = 0 ∧ u = 4 * mx + 2) ∧
      (mx = 2 ^ 52 → 1 < ef → 4 * (mx : ℚ) - 1 ≤ u) := by
  have h1 : ((4 * mx - 1 : ℕ) : ℚ) = 4 * mx - 1 := by
    rw [Nat.cast_sub (by omega)]; push_cast; ring
  have h2 : ((4 * mx - 2 : ℕ) : ℚ) = 4 * mx - 2 := by
    rw [Nat.cast_sub (by omega)]; push_cast; ring
  simp only [roundingInterval, Nat.pow_eq] at h
  rw [mem_intervalSet] at h
  obtain ⟨hlo, hhi⟩ := h
  simp only [decide_eq_true_eq] at hlo hhi
  push_cast at hhi
  refine ⟨?_, hhi, ?_⟩
  · split_ifs at hlo with hb
    · -- a quarter unit below is more than a half unit below
      left
      rw [h1] at hlo
      rcases hlo with h | ⟨-, h⟩ <;> linarith
    · rwa [h2] at hlo
  · intro h52 hef
    rw [if_pos ⟨h52, hef⟩, h1] at hlo
    rcases hlo with h | ⟨-, h⟩ <;> linarith

/-- A value of the rounding interval of `mx · 2^q` is within half a unit `2^(q-1)` of it, and
within a quarter unit below it at the bottom of a binade above the least. -/
theorem near_value_of_mem {v : ℚ} {mx ef : Nat} {q : Int} (hmx : 0 < mx)
    (hin : v / 2 ^ (q - 2) ∈ intervalSet (roundingInterval mx ef)) :
    ((mx : ℚ) - 1 / 2) * 2 ^ q ≤ v ∧ v ≤ ((mx : ℚ) + 1 / 2) * 2 ^ q ∧
      (mx = 2 ^ 52 → 1 < ef → ((mx : ℚ) - 1 / 4) * 2 ^ q ≤ v) := by
  obtain ⟨hlow, hup, hlow'⟩ := near_of_mem hmx hin
  have hvu : v = v / 2 ^ (q - 2) / 4 * 2 ^ q := by
    rw [zpow_sub₀ two_ne_zero]
    field_simp
    norm_num
  refine ⟨?_, ?_, ?_⟩
  · rw [hvu]; gcongr; rcases hlow with h | ⟨-, h⟩ <;> linarith
  · rw [hvu]; gcongr; rcases hup with h | ⟨-, h⟩ <;> linarith
  · intro h52 hef
    rw [hvu]; gcongr; linarith [hlow' h52 hef]

/-- A value of the rounding interval of a finite positive number lies between half the least
subnormal and the overflow threshold. -/
theorem range_of_mem {v : ℚ} {mx ef : Nat} {q : Int} (hmx : 0 < mx) (hc : Canonical mx q)
    (hq : q ≤ 971) (hin : v / 2 ^ (q - 2) ∈ intervalSet (roundingInterval mx ef)) :
    (2 : ℚ) ^ (-1075 : ℤ) ≤ v ∧ v < 2 ^ (1024 : ℤ) := by
  obtain ⟨hlo, hhi, -⟩ := near_value_of_mem hmx hin
  have hmx1 : (1 : ℚ) ≤ mx := by exact_mod_cast hmx
  have hmx53 : (mx : ℚ) + 1 ≤ 2 ^ 53 := by exact_mod_cast hc.1
  constructor
  · calc (2 : ℚ) ^ (-1075 : ℤ) = 1 / 2 * 2 ^ (-1074 : ℤ) := by
          rw [show (-1075 : ℤ) = -1 + -1074 by norm_num, zpow_add₀ two_ne_zero]
          norm_num
      _ ≤ ((mx : ℚ) - 1 / 2) * 2 ^ q :=
        mul_le_mul (by linarith) (zpow_le_zpow_right₀ one_le_two hc.2.1) (by positivity)
          (by linarith)
      _ ≤ v := hlo
  · calc v ≤ ((mx : ℚ) + 1 / 2) * 2 ^ q := hhi
      _ < 2 ^ 53 * 2 ^ (971 : ℤ) :=
        mul_lt_mul (by linarith) (zpow_le_zpow_right₀ one_le_two hq) (zpow_pos two_pos q)
          (by positivity)
      _ = 2 ^ (1024 : ℤ) := by
        rw [← zpow_natCast, ← zpow_add₀ two_ne_zero]
        norm_num

/-! ### The binade of a value -/

/-- A value described by a mantissa `m` at an exponent `e` no higher than its target, within
half a unit of a canonical `mx · 2^q` (within a quarter unit below at the bottom of a binade
above the least), has its target exponent at `q`, or at `q - 1` when it lies below
`mx = 2^52`. -/
theorem target_of_near {v : ℚ} {m : Nat} {e : Int} (hlo : (m : ℚ) * 2 ^ e ≤ v)
    (hhi : v < ((m : ℚ) + 1) * 2 ^ e) (he : 52 ≤ m.log2 ∨ e ≤ -1074)
    {mx : Nat} {q : Int} (hc : Canonical mx q)
    (hbelow : ((mx : ℚ) - 1 / 2) * 2 ^ q ≤ v)
    (hbelow' : mx = 2 ^ 52 → -1074 < q → ((mx : ℚ) - 1 / 4) * 2 ^ q ≤ v)
    (habove : v ≤ ((mx : ℚ) + 1 / 2) * 2 ^ q) :
    max ((m.log2 : Int) + e - 52) (-1074) = q ∨
      mx = 2 ^ 52 ∧ -1074 < q ∧ v < (mx : ℚ) * 2 ^ q ∧
        max ((m.log2 : Int) + e - 52) (-1074) = q - 1 := by
  obtain ⟨hmx53, hq, hnorm⟩ := hc
  have hexp : ∀ a b : ℤ, (2 : ℚ) ^ a < 2 ^ b → a < b := fun a b h =>
    (zpow_lt_zpow_iff_right₀ one_lt_two).1 h
  have hpow : ∀ (a : ℤ) (n : ℕ), (2 : ℚ) ^ (a + n) = 2 ^ n * 2 ^ a := fun a n => by
    rw [zpow_add₀ two_ne_zero, zpow_natCast, mul_comm]
  have hq2 : (0 : ℚ) < 2 ^ q := zpow_pos two_pos q
  -- the value lies below the binade above the leading bit of `m`
  have hvB : v < 2 ^ (e + (m.log2 + 1 : ℕ)) := by
    have hm1 : (m : ℚ) + 1 ≤ 2 ^ (m.log2 + 1) := by exact_mod_cast Nat.lt_log2_self
    calc v < ((m : ℚ) + 1) * 2 ^ e := hhi
      _ ≤ 2 ^ (m.log2 + 1) * 2 ^ e := by gcongr
      _ = 2 ^ (e + (m.log2 + 1 : ℕ)) := (hpow e _).symm
  -- and below the binade above `mx`
  have hvq : v < 2 ^ (q + (53 : ℕ)) := by
    have : (mx : ℚ) + 1 ≤ 2 ^ 53 := by exact_mod_cast hmx53
    calc v ≤ ((mx : ℚ) + 1 / 2) * 2 ^ q := habove
      _ < 2 ^ 53 * 2 ^ q := by gcongr; linarith
      _ = 2 ^ (q + (53 : ℕ)) := (hpow q 53).symm
  have htq : max ((m.log2 : Int) + e - 52) (-1074) ≤ q := by
    refine max_le ?_ hq
    by_cases hB : (m.log2 : Int) + e - 52 ≤ -1074
    · omega
    -- a target above the least needs a leading bit of `m`, at `2^(log2 m + e)`
    have hm0 : m ≠ 0 := by
      rintro rfl
      simp only [Nat.log2_zero, Nat.cast_zero, zero_add] at hB he
      omega
    have hlead : (2 : ℚ) ^ (e + (m.log2 : ℕ)) ≤ v := by
      have : (2 : ℚ) ^ m.log2 ≤ m := by exact_mod_cast Nat.log2_self_le hm0
      calc (2 : ℚ) ^ (e + (m.log2 : ℕ)) = 2 ^ m.log2 * 2 ^ e := hpow e _
        _ ≤ m * 2 ^ e := by gcongr
        _ ≤ v := hlo
    have := hexp _ _ (lt_of_le_of_lt hlead hvq)
    omega
  rcases hnorm with hnorm | hq0
  swap
  · left; omega
  rcases Nat.lt_or_eq_of_le hnorm with hgt | heq
  · -- above the bottom of its binade the value is above `2^(q + 52)`
    left
    have hv52 : (2 : ℚ) ^ (q + (52 : ℕ)) < v := by
      have : (2 : ℚ) ^ 52 + 1 ≤ mx := by exact_mod_cast hgt
      calc (2 : ℚ) ^ (q + (52 : ℕ)) = 2 ^ 52 * 2 ^ q := hpow q 52
        _ < ((mx : ℚ) - 1 / 2) * 2 ^ q := by gcongr; linarith
        _ ≤ v := hbelow
    have := hexp _ _ (hv52.trans hvB)
    omega
  · -- at the bottom of a binade above the least the value may lie a binade lower
    by_cases hq' : q = -1074
    · left; omega
    have hq1 : -1074 < q := lt_of_le_of_ne hq (Ne.symm hq')
    have hv51 : (2 : ℚ) ^ (q + (51 : ℕ)) < v := by
      have h52 : (mx : ℚ) = 2 ^ 52 := by exact_mod_cast heq.symm
      calc (2 : ℚ) ^ (q + (51 : ℕ)) = 2 ^ 51 * 2 ^ q := hpow q 51
        _ < ((mx : ℚ) - 1 / 4) * 2 ^ q := by gcongr; rw [h52]; norm_num
        _ ≤ v := hbelow' heq.symm hq1
    have hlog := hexp _ _ (hv51.trans hvB)
    by_cases hteq : max ((m.log2 : Int) + e - 52) (-1074) = q
    · exact .inl hteq
    right
    refine ⟨heq.symm, hq1, ?_, by omega⟩
    calc v < 2 ^ (e + (m.log2 + 1 : ℕ)) := hvB
      _ ≤ 2 ^ (q + (52 : ℕ)) := zpow_le_zpow_right₀ one_le_two (by omega)
      _ = (mx : ℚ) * 2 ^ q := by rw [hpow, ← heq]; push_cast; rfl

/-! ### Rounding a value of the interval -/

/-- **Rounding to nearest inverts the interval.**  A value described by a mantissa at an
exponent no higher than its target rounds to the canonical `mx · 2^q` when it lies in that
number's rounding interval, `ef` being its exponent field. -/
theorem roundWithAccuracy_of_mem (s : Sign) {m : Nat} {e : Int} {acc : Accuracy} {v : ℚ}
    (hv : Halves (2 * v / 2 ^ e) (ExtendedMantissa.ofMantissaAndAccuracy m acc))
    (he : 52 ≤ m.log2 ∨ e ≤ -1074)
    {mx : Nat} {q : Int} (hmx : 0 < mx) (hc : Canonical mx q) {ef : Nat}
    (hef : mx = 2 ^ 52 → (1 < ef ↔ -1074 < q))
    (hin : v / 2 ^ (q - 2) ∈ intervalSet (roundingInterval mx ef)) :
    roundWithAccuracy Format.binary64 s m e acc = .finite s mx q hmx := by
  obtain ⟨hlow, hup, hlow'⟩ := near_of_mem hmx hin
  obtain ⟨hbelow, habove, hbelow'⟩ := near_value_of_mem hmx hin
  set u := v / 2 ^ (q - 2) with hu
  have hq2 : (0 : ℚ) < 2 ^ q := zpow_pos two_pos q
  have hvu : v = u / 4 * 2 ^ q := by
    rw [hu, zpow_sub₀ two_ne_zero]
    field_simp
    norm_num
  -- the first shift brings the description to the target exponent `t`
  set t := max ((m.log2 : Int) + e - 52) (-1074) with ht
  have het : e + ((t - e).toNat : Int) = t := by omega
  have hshift : shiftToTargetExponent Format.binary64 m e acc =
      (ExtendedMantissa.ofMantissaAndAccuracy m acc >>> (t - e).toNat, t) := by
    rw [shiftToTargetExponent_acc, targetExponent_eq, ← ht, het]
  have hw := hv.shiftRight_zpow (t - e).toNat
  rw [het] at hw
  obtain ⟨hvlo, hvhi⟩ := hv.bounds
  rw [mantissa_ofMantissaAndAccuracy] at hvlo hvhi
  rcases target_of_near hvlo hvhi he hc hbelow (fun h52 hq => hbelow' h52 ((hef h52).2 hq))
    habove with htq | ⟨h52, hq1, hvq, htq⟩
  · -- at the exponent `q` the value is within a half unit of `mx`, and `mx` is in place
    rw [← ht] at htq
    rw [htq] at hw hshift
    have hwu : 2 * v / 2 ^ q = u / 2 := by rw [hvu]; field_simp; ring
    rw [hwu] at hw
    have hR := hw.roundedMantissa_eq (n := mx)
      (by rcases hlow with h | ⟨hev, h⟩
          · left; linarith
          · right; exact ⟨by linarith, hev⟩)
      (by rcases hup with h | ⟨hev, h⟩
          · left; linarith
          · right; exact ⟨by linarith, hev⟩)
    simp only [roundWithAccuracy, hshift, hR, shiftToTargetExponent_small hc.1 hc.2.1]
    simp [hmx.ne']
  · -- a binade lower the value rounds up to `2^53`, which carries into `2^52` at `q`
    rw [← ht] at htq
    rw [htq] at hw hshift
    subst h52
    have hwu : 2 * v / 2 ^ (q - 1) = u := by
      rw [hvu, zpow_sub_one₀ two_ne_zero]; field_simp; ring
    rw [hwu] at hw
    have hlo1 : 4 * ((2 ^ 52 : ℕ) : ℚ) - 1 ≤ u := hlow' rfl ((hef rfl).2 hq1)
    have hu1 : u < 4 * ((2 ^ 52 : ℕ) : ℚ) := by
      rw [hvu] at hvq
      have := lt_of_mul_lt_mul_right hvq hq2.le
      push_cast at this ⊢
      linarith
    have hR := hw.roundedMantissa_eq (n := 2 ^ 53)
      (by rcases lt_or_eq_of_le hlo1 with h | h
          · left; push_cast at h ⊢; linarith
          · right; push_cast at h ⊢; exact ⟨by linarith, by norm_num⟩)
      (by left; push_cast at hu1 ⊢; linarith)
    simp only [roundWithAccuracy, hshift, hR, shiftToTargetExponent_carry (by omega : -1074 ≤ q - 1)]
    simp

end SailSim.Binary64


