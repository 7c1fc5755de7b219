import Mathlib
import SailSim.Proofs.Binary64.Scientific

/-!
# The shortest digits lie in the rounding interval

`Binary64.shortest` searches the decimal grids of 1 to 17 significant digits for a neighbour of
the value inside its rounding interval. Every decimal it returns passes that test, so it lies in
the interval, and on the grid of 17 digits a neighbour always does: the grid is finer than the
interval is wide. Main results:

* `Binary64.cmpScaled_eq`, `Binary64.inInterval_iff` : the search's exact comparisons are
  comparisons of rationals, and its test is membership in the interval;
* `Binary64.candidate_mem` : a candidate lies in the interval;
* `Binary64.candidate_isSome` : on a grid below a hundred-thousand-billionth of the value a
  candidate exists;
* `Binary64.decimalExponent_le` : the leading decimal exponent found is never too high;
* **`Binary64.shortest_mem`** : the shortest digits of a finite nonzero value lie in its
  rounding interval, and are not zero.
-/

namespace SailSim.Binary64

open Float.Model Float.Model.UnpackedFloat

/-! ### Exact comparisons -/

/-- Natural numbers that are the same positive multiple of two rationals compare as they do. -/
theorem compare_eq_of_scaled {X Y : ℕ} {x y c : ℚ} (hc : 0 < c) (hX : (X : ℚ) = x * c)
    (hY : (Y : ℚ) = y * c) : compare X Y = compare x y := by
  rcases lt_trichotomy x y with h | h | h
  · rw [compare_lt_iff_lt.2 h, compare_lt_iff_lt]
    have : (X : ℚ) < Y := by rw [hX, hY]; exact mul_lt_mul_of_pos_right h hc
    exact_mod_cast this
  · rw [compare_eq_iff_eq.2 h, compare_eq_iff_eq]
    have : (X : ℚ) = Y := by rw [hX, hY, h]
    exact_mod_cast this
  · rw [compare_gt_iff_gt.2 h, compare_gt_iff_gt]
    have : (Y : ℚ) < X := by rw [hX, hY]; exact mul_lt_mul_of_pos_right h hc
    exact_mod_cast this

/-- A power of a positive rational times its power at the negated exponent's positive part is
its power at the exponent's positive part. -/
theorem zpow_mul_toNat_neg {b : ℚ} (hb : b ≠ 0) (k : Int) :
    b ^ k * b ^ (-k).toNat = b ^ k.toNat := by
  rw [← zpow_natCast, ← zpow_natCast, ← zpow_add₀ hb]
  congr 1
  omega

/-- `cmpScaled` compares `d · 10^k` with `a · 2^e` exactly: it compares `d · 10^k` measured in
units of `2^e` with `a`. -/
theorem cmpScaled_eq (d : Nat) (k : Int) (a : Nat) (e : Int) :
    cmpScaled d k a e = compare ((d : ℚ) * 10 ^ k / 2 ^ e) a := by
  unfold cmpScaled
  simp only [Nat.pow_eq]
  -- both sides scaled by `10^(-k)⁺ · 2^(-e)⁺ · 2^e`
  apply compare_eq_of_scaled (c := 10 ^ (-k).toNat * 2 ^ (-e).toNat * 2 ^ e) (by positivity)
  · push_cast
    rw [← zpow_mul_toNat_neg (by norm_num : (10 : ℚ) ≠ 0)]
    field_simp
  · push_cast
    rw [← zpow_mul_toNat_neg (by norm_num : (2 : ℚ) ≠ 0)]
    ring

/-- The three ways two rationals compare. -/
theorem compare_cases (u a : ℚ) :
    (u < a ∧ compare u a = .lt) ∨ (u = a ∧ compare u a = .eq) ∨ (a < u ∧ compare u a = .gt) := by
  rcases lt_trichotomy u a with h | h | h
  · exact .inl ⟨h, compare_lt_iff_lt.2 h⟩
  · exact .inr (.inl ⟨h, compare_eq_iff_eq.2 h⟩)
  · exact .inr (.inr ⟨h, compare_gt_iff_gt.2 h⟩)

/-- The search's test is membership in the interval, `d · 10^k` measured in units of `2^e`. -/
theorem inInterval_iff (d : Nat) (k : Int) (lo hi : Nat) (e : Int) (closed : Bool) :
    inInterval d k lo hi e closed = true ↔
      (d : ℚ) * 10 ^ k / 2 ^ e ∈ intervalSet (lo, hi, closed) := by
  rw [mem_intervalSet]
  unfold inInterval
  rw [cmpScaled_eq, cmpScaled_eq]
  generalize (d : ℚ) * 10 ^ k / 2 ^ e = u
  rcases compare_cases u lo with ⟨h1, e1⟩ | ⟨h1, e1⟩ | ⟨h1, e1⟩ <;>
    rcases compare_cases u hi with ⟨h2, e2⟩ | ⟨h2, e2⟩ | ⟨h2, e2⟩ <;>
    simp only [e1, e2] <;> cases closed <;> simp <;> grind

/-! ### Candidates -/

/-- A candidate passed the search's test. -/
theorem inInterval_of_candidate {m : Nat} {q : Int} {ef : Nat} {top : Int} {p : Nat}
    {D : Decimal} (h : candidate m q ef top p = some D) :
    inInterval D.digits D.exponent (roundingInterval m ef).1 (roundingInterval m ef).2.1 (q - 2)
      (roundingInterval m ef).2.2 = true := by
  unfold candidate at h
  generalize roundingInterval m ef = r at h ⊢
  obtain ⟨lo, hi, closed⟩ := r
  dsimp only at h ⊢
  generalize top - (p : Int) + 1 = k at h
  generalize m * Nat.pow 2 q.toNat * Nat.pow 10 (-k).toNat /
    (Nat.pow 2 (-q).toNat * Nat.pow 10 k.toNat) = below at h
  -- every branch returns a neighbour whose test it has just passed
  cases hb : inInterval below k lo hi (q - 2) closed <;>
    cases ha : inInterval (below + 1) k lo hi (q - 2) closed <;>
    simp only [hb, ha, Bool.and_true, Bool.and_false, Bool.false_eq_true, if_false, if_true,
      reduceCtorEq] at h
  · obtain rfl := Option.some.inj h
    exact ha
  · obtain rfl := Option.some.inj h
    exact hb
  · -- both neighbours pass: the nearer wins, a tie going to the even one
    split at h
    · obtain rfl := Option.some.inj h
      exact ha
    · obtain rfl := Option.some.inj h
      exact hb
    · split_ifs at h
      · obtain rfl := Option.some.inj h
        exact hb
      · obtain rfl := Option.some.inj h
        exact ha

/-- A candidate lies in the rounding interval. -/
theorem candidate_mem {m : Nat} {q : Int} {ef : Nat} {top : Int} {p : Nat} {D : Decimal}
    (h : candidate m q ef top p = some D) :
    (D.digits : ℚ) * 10 ^ D.exponent / 2 ^ (q - 2) ∈ intervalSet (roundingInterval m ef) :=
  (inInterval_iff _ _ _ _ _ _).1 (inInterval_of_candidate h)

/-! ### A candidate exists -/

/-- The lower neighbour of `m · 2^q` on the grid of `10^k`, as the search computes it. -/
def gridBelow (m : Nat) (q k : Int) : Nat :=
  m * Nat.pow 2 q.toNat * Nat.pow 10 (-k).toNat / (Nat.pow 2 (-q).toNat * Nat.pow 10 k.toNat)

/-- The lower grid neighbour is at most the value, and the next grid point above it. -/
theorem gridBelow_spec (m : Nat) (q k : Int) :
    (gridBelow m q k : ℚ) * 10 ^ k ≤ m * 2 ^ q ∧ (m : ℚ) * 2 ^ q < (gridBelow m q k + 1) * 10 ^ k := by
  unfold gridBelow
  simp only [Nat.pow_eq]
  set N := m * 2 ^ q.toNat * 10 ^ (-k).toNat
  set D := 2 ^ (-q).toNat * 10 ^ k.toNat
  have hD : 0 < D := by positivity
  -- numerator and denominator are the value and the grid step, both scaled by `c`
  set c : ℚ := 2 ^ (-q).toNat * 10 ^ (-k).toNat with hc
  have hcpos : 0 < c := by positivity
  have hN : (N : ℚ) = m * 2 ^ q * c := by
    simp only [N, hc]
    push_cast
    rw [← zpow_mul_toNat_neg (by norm_num : (2 : ℚ) ≠ 0) q]
    ring
  have hDc : (D : ℚ) = 10 ^ k * c := by
    simp only [D, hc]
    push_cast
    rw [← zpow_mul_toNat_neg (by norm_num : (10 : ℚ) ≠ 0) k]
    ring
  have h1 : ((N / D : ℕ) : ℚ) * D ≤ N := by exact_mod_cast Nat.div_mul_le_self N D
  have h2 : (N : ℚ) < D * ((N / D : ℕ) + 1) := by exact_mod_cast Nat.lt_mul_div_succ N hD
  rw [hN, hDc] at h1 h2
  constructor
  · exact le_of_mul_le_mul_right (by linarith) hcpos
  · exact lt_of_mul_lt_mul_right (by linarith) hcpos.le

/-- The ends of the rounding interval in quarter units: the upper end is `4m + 2`, the lower
one at most `4m - 1`, and `4m - 2` unless `m` is `2^52`. -/
theorem roundingInterval_ends {m ef : Nat} (hm : 0 < m) :
    ((roundingInterval m ef).2.1 : ℚ) = 4 * m + 2 ∧ ((roundingInterval m ef).1 : ℚ) ≤ 4 * m - 1 ∧
      (m ≠ 2 ^ 52 → ((roundingInterval m ef).1 : ℚ) = 4 * m - 2) := by
  simp only [roundingInterval, Nat.pow_eq]
  refine ⟨by push_cast; ring, ?_, ?_⟩
  · split_ifs <;> rw [Nat.cast_sub (by omega)] <;> push_cast <;> linarith
  · intro h52
    rw [if_neg (fun h => h52 h.1), Nat.cast_sub (by omega)]
    push_cast
    ring

/-- On a grid finer than the rounding interval is wide, one of the two grid neighbours of
`m · 2^q` lies strictly inside the interval: the lower one if it is above the lower end, else
the upper one, less than a grid step higher. -/
theorem neighbour_mem {m ef : Nat} {q k : Int} (hm : 0 < m)
    (hfine : (10 : ℚ) ^ k < (if m = 2 ^ 52 then 3 / 4 else 1) * 2 ^ q) :
    (gridBelow m q k : ℚ) * 10 ^ k / 2 ^ (q - 2) ∈ intervalSet (roundingInterval m ef) ∨
      ((gridBelow m q k + 1 : ℕ) : ℚ) * 10 ^ k / 2 ^ (q - 2) ∈
        intervalSet (roundingInterval m ef) := by
  obtain ⟨hhi, hlo, hlo'⟩ := @roundingInterval_ends m ef hm
  obtain ⟨hb1, hb2⟩ := gridBelow_spec m q k
  generalize roundingInterval m ef = r at hhi hlo hlo' ⊢
  obtain ⟨lo, hi, closed⟩ := r
  dsimp only at hhi hlo hlo'
  simp only [mem_intervalSet]
  -- measure in quarter units of `2^q`
  have h4 : (2 : ℚ) ^ (q - 2) = 2 ^ q / 4 := by rw [zpow_sub₀ two_ne_zero]; norm_num
  rw [h4]
  push_cast
  generalize hB : (gridBelow m q k : ℚ) = B at hb1 hb2
  generalize (10 : ℚ) ^ k = t at hb1 hb2 hfine
  have hw : (0 : ℚ) < 2 ^ q := zpow_pos two_pos q
  generalize (2 : ℚ) ^ q = w at hw hb1 hb2 hfine
  have hdiv : ∀ d : ℚ, d * t / (w / 4) = 4 * (d * t) / w := fun d => by field_simp
  simp only [hdiv, lt_div_iff₀ hw, div_lt_iff₀ hw]
  have hlow : (lo : ℚ) * w ≤ (4 * m - 1) * w := mul_le_mul_of_nonneg_right hlo hw.le
  rcases lt_or_ge ((lo : ℚ) * w) (4 * (B * t)) with hl | hl
  · -- the lower neighbour is above the lower end, and at most the value
    left
    exact ⟨.inl hl, .inl (by rw [hhi]; nlinarith)⟩
  · -- else the upper neighbour is above the value and less than a step above the lower end
    right
    refine ⟨.inl (by nlinarith), .inl ?_⟩
    rw [hhi]
    split_ifs at hfine with h52
    · nlinarith
    · have := mul_le_mul_of_nonneg_right (le_of_eq (hlo' h52)) hw.le
      nlinarith

/-- On the grid of 17 significant digits below a leading exponent `top` with `10^top` at most
the value `m · 2^q`, a candidate exists: that grid is finer than the interval is wide. -/
theorem candidate_isSome {m : Nat} {q : Int} {ef : Nat} {top : Int} (hm : 0 < m)
    (hm53 : m < 2 ^ 53) (htop : (10 : ℚ) ^ top ≤ m * 2 ^ q) :
    (candidate m q ef top 17).isSome = true := by
  set k : Int := top - ((17 : ℕ) : ℤ) + 1 with hk
  have hw : (0 : ℚ) < 2 ^ q := zpow_pos two_pos q
  -- the grid step is at most the value over `10^16`
  have hstep : (10 : ℚ) ^ k * 10 ^ 16 ≤ m * 2 ^ q := by
    rw [← zpow_natCast, ← zpow_add₀ (by norm_num)]
    convert htop using 2
    push_cast
    ring
  have hfine : (10 : ℚ) ^ k < (if m = 2 ^ 52 then 3 / 4 else 1) * 2 ^ q := by
    split_ifs with h52
    · rw [h52] at hstep
      push_cast at hstep
      nlinarith
    · have : (m : ℚ) + 1 ≤ 2 ^ 53 := by exact_mod_cast hm53
      nlinarith
  have hone := @neighbour_mem m ef q k hm hfine
  unfold candidate
  generalize roundingInterval m ef = r at hone ⊢
  obtain ⟨lo, hi, closed⟩ := r
  rw [← inInterval_iff, ← inInterval_iff] at hone
  dsimp only
  rw [← hk]
  -- one neighbour passes the test, and every branch with a pass returns
  rcases hone with hb | ha
  · simp only [gridBelow] at hb
    simp only [hb, Bool.true_and]
    split
    · split <;> rfl
    · rfl
  · simp only [gridBelow] at ha
    simp only [ha, Bool.and_true, ↓reduceIte]
    split
    · split <;> rfl
    · rfl

/-! ### The leading exponent -/

/-- The first guess of the leading decimal exponent, the binary one times `0.30103`, rounded
down, is at most four too high: `10^(guess - 4) ≤ 2^L` over the whole range of binary exponents.
Above one, blocks of `1000 ≤ 1024` bound the power of ten; below one, blocks of
`2^93 ≤ 10^28` and `2^3 ≤ 10` bound the power of two. -/
theorem ten_zpow_guess_le {L : Int} (hL : -1074 ≤ L) (hL' : L ≤ 1023) :
    (10 : ℚ) ^ (L * 30103 / 100000 - 4) ≤ 2 ^ L := by
  set g := L * 30103 / 100000 with hg
  rcases le_or_gt 0 L with h0 | h0
  · by_cases h4 : g < 4
    · calc (10 : ℚ) ^ (g - 4) ≤ 1 := zpow_le_one_of_nonpos₀ (by norm_num) (by omega)
        _ ≤ 2 ^ L := one_le_zpow₀ one_le_two h0
    -- `g - 4 = 3a + r` and `10^(3a + r) ≤ 2^(10a + 4r) ≤ 2^L`
    set a := (g - 4).toNat / 3
    set r := (g - 4).toNat % 3
    have hnat : 10 ^ (3 * a + r) ≤ 2 ^ L.toNat :=
      calc 10 ^ (3 * a + r) = 1000 ^ a * 10 ^ r := by rw [pow_add, pow_mul]; norm_num
        _ ≤ 1024 ^ a * 16 ^ r :=
          Nat.mul_le_mul (Nat.pow_le_pow_left (by norm_num) a) (Nat.pow_le_pow_left (by norm_num) r)
        _ = 2 ^ (10 * a + 4 * r) := by rw [pow_add, pow_mul, pow_mul]; norm_num
        _ ≤ 2 ^ L.toNat := Nat.pow_le_pow_right (by norm_num) (by omega)
    have hg4 : g - 4 = ((3 * a + r : ℕ) : ℤ) := by omega
    rw [hg4, zpow_natCast, ← Int.toNat_of_nonneg h0, zpow_natCast]
    exact_mod_cast hnat
  · -- `-L = 93a + 3c + r` and `2^(-L) ≤ 10^(28a + c + 1) ≤ 10^(4 - g)`
    set n := (-L).toNat
    set a := n / 93
    set c := n % 93 / 3
    set r := n % 3
    have hnat : 2 ^ n ≤ 10 ^ (4 - g).toNat :=
      calc 2 ^ n = (2 ^ 93) ^ a * (2 ^ 3) ^ c * 2 ^ r := by
            rw [← pow_mul, ← pow_mul, ← pow_add, ← pow_add]; congr 1; omega
        _ ≤ (10 ^ 28) ^ a * 10 ^ c * 10 := by
          apply Nat.mul_le_mul (Nat.mul_le_mul (Nat.pow_le_pow_left (by norm_num) a)
            (Nat.pow_le_pow_left (by norm_num) c))
          calc 2 ^ r ≤ 2 ^ 2 := Nat.pow_le_pow_right (by norm_num) (by omega)
            _ ≤ 10 := by norm_num
        _ = 10 ^ (28 * a + c + 1) := by rw [pow_add, pow_add, pow_mul]; norm_num
        _ ≤ 10 ^ (4 - g).toNat := Nat.pow_le_pow_right (by norm_num) (by omega)
    have hq : (2 : ℚ) ^ n ≤ 10 ^ (4 - g).toNat := by exact_mod_cast hnat
    rw [← zpow_natCast, ← zpow_natCast, Int.toNat_of_nonneg (by omega),
      Int.toNat_of_nonneg (by omega)] at hq
    calc (10 : ℚ) ^ (g - 4) = (10 ^ (4 - g))⁻¹ := by rw [← zpow_neg, neg_sub]
      _ ≤ (2 ^ (-L))⁻¹ := inv_anti₀ (by positivity) hq
      _ = 2 ^ L := by rw [← zpow_neg, neg_neg]

/-- The search for the leading exponent ends at most at the value from a start at most `n`
steps too high: a step down follows a start too high, a step up one that is not, and the
search stops only on an exponent not too high or when it runs out of steps. -/
theorem fix_le {m : Nat} {q : Int} : ∀ (n : Nat) (e : Int),
    (10 : ℚ) ^ (e - n) ≤ m * 2 ^ q → (10 : ℚ) ^ decimalExponent.fix m q n e ≤ m * 2 ^ q
  | 0, e, h => by simpa [decimalExponent.fix] using h
  | n + 1, e, h => by
    have hw : (0 : ℚ) < 2 ^ q := zpow_pos two_pos q
    -- `cmpScaled 1 e m q` compares `10^e` with the value
    have hgt : ∀ e' : Int, cmpScaled 1 e' m q = .gt ↔ (m : ℚ) * 2 ^ q < 10 ^ e' := by
      intro e'
      rw [cmpScaled_eq, compare_gt_iff_gt, Nat.cast_one, one_mul, lt_div_iff₀ hw]
    unfold decimalExponent.fix
    split_ifs with h1 h2
    · exact fix_le n (e - 1) (by convert h using 2; push_cast; ring)
    · have hup : (10 : ℚ) ^ (e + 1) ≤ m * 2 ^ q := by
        simp only [bne_iff_ne, ne_eq] at h2
        exact not_lt.1 fun h' => h2 ((hgt _).2 h')
      exact fix_le n (e + 1) (le_trans (zpow_le_zpow_right₀ (by norm_num) (by omega)) hup)
    · simp only [beq_iff_eq] at h1
      exact not_lt.1 fun h' => h1 ((hgt _).2 h')

/-- The leading exponent found for a positive finite value is never too high. -/
theorem decimalExponent_le {m : Nat} {q : Int} (hm : 0 < m) (hm53 : m < 2 ^ 53)
    (hq : -1074 ≤ q) (hq' : q ≤ 971) : (10 : ℚ) ^ decimalExponent m q ≤ m * 2 ^ q := by
  have hlog : m.log2 < 53 := (Nat.log2_lt hm.ne').2 hm53
  unfold decimalExponent
  apply fix_le 4
  calc (10 : ℚ) ^ (((m.log2 : Int) + q) * 30103 / 100000 - ((4 : ℕ) : ℤ))
      ≤ 2 ^ ((m.log2 : Int) + q) := ten_zpow_guess_le (by omega) (by omega)
    _ = 2 ^ m.log2 * 2 ^ q := by rw [zpow_add₀ two_ne_zero, zpow_natCast]
    _ ≤ m * 2 ^ q := by
      gcongr
      exact_mod_cast Nat.log2_self_le hm.ne'

/-! ### Trailing zeros -/

/-- Moving trailing zeros into the exponent keeps the value, and nonzero digits stay nonzero. -/
theorem trim_go_value : ∀ (n : Nat) (x : Decimal),
    ((Decimal.trim.go n x).digits : ℚ) * 10 ^ (Decimal.trim.go n x).exponent =
        x.digits * 10 ^ x.exponent ∧
      (x.digits ≠ 0 → (Decimal.trim.go n x).digits ≠ 0)
  | 0, x => ⟨rfl, id⟩
  | n + 1, ⟨d, e⟩ => by
    unfold Decimal.trim.go
    split_ifs with h
    · -- a trailing zero moves: `d · 10^e = (d / 10) · 10^(e + 1)`
      obtain ⟨hv, hz⟩ := trim_go_value n ⟨d / 10, e + 1⟩
      have hd10 : d / 10 ≠ 0 := by
        obtain ⟨h1, h2⟩ := h
        dsimp only at h1 h2
        omega
      refine ⟨?_, fun _ => hz hd10⟩
      rw [hv, zpow_add₀ (by norm_num), zpow_one]
      have hd : ((d / 10 : ℕ) : ℚ) * 10 = d := by exact_mod_cast Nat.div_mul_cancel (Nat.dvd_of_mod_eq_zero h.2)
      dsimp only
      rw [← hd]
      ring
    · exact ⟨rfl, id⟩

/-! ### The shortest digits -/

/-- **The shortest digits lie in the rounding interval.**  For a finite nonzero `x` with
unpacked mantissa `m` and exponent `q`, the decimal `shortest x` is not zero and lies in the
rounding interval of `m · 2^q`: the search finds a candidate by the grid of 17 digits, and
trimming keeps its value. -/
theorem shortest_mem {x : Float} {s : Sign} {m : Nat} {q : Int} {hm : 0 < m}
    (hx : x.toModel.unpack = .finite s m q hm) :
    ((shortest x).digits : ℚ) * 10 ^ (shortest x).exponent / 2 ^ (q - 2) ∈
        intervalSet (roundingInterval m (exponentField x)) ∧ (shortest x).digits ≠ 0 := by
  obtain ⟨⟨hm53, hq, -⟩, hq'⟩ := unpack_canonical hx
  have hmag := (magnitude_of_unpack hx).1
  unfold shortest
  rw [hmag]
  dsimp only
  unfold shortestOfMagnitude
  rw [if_neg hm.ne']
  dsimp only
  -- the search finds a candidate, by the grid of 17 digits at the latest
  have hsome : ((List.range 17).findSome? fun i =>
      candidate m q (exponentField x) (decimalExponent m q) (i + 1)).isSome = true := by
    rw [List.findSome?_isSome_iff]
    exact ⟨16, List.mem_range.2 (by norm_num),
      candidate_isSome hm hm53 (decimalExponent_le hm hm53 hq hq')⟩
  obtain ⟨D, hD⟩ := Option.isSome_iff_exists.1 hsome
  obtain ⟨i, -, hi⟩ := List.exists_of_findSome?_eq_some hD
  rw [hD, Option.getD_some]
  obtain ⟨hv, hz⟩ := trim_go_value (digitCount D.digits) D
  have hmem := candidate_mem hi
  -- a candidate in the interval is not zero, the interval lying above zero
  have hD0 : D.digits ≠ 0 := by
    intro h0
    obtain ⟨hlo, -, -⟩ := near_value_of_mem hm hmem
    rw [h0, Nat.cast_zero, zero_mul] at hlo
    have : (1 : ℚ) ≤ m := by exact_mod_cast hm
    have hw : (0 : ℚ) < 2 ^ q := zpow_pos two_pos q
    nlinarith
  refine ⟨?_, hz hD0⟩
  unfold Decimal.trim
  rw [hv]
  exact hmem

end SailSim.Binary64
