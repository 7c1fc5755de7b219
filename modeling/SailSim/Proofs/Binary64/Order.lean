import SailSim.Proofs.Binary64.Round

/-!
# The order of binary64 numbers, in ticks

A finite number is a whole number of ticks (`Binary64.ticks`) with a sign, its *signed ticks*
(`Binary64.signedTicks`), and comparing two finite numbers is comparing those integers:

* `Binary64.compare_lex_eq` : canonical numbers compare by exponent, then mantissa, exactly as
  their ticks do;
* **`Binary64.le_iff_signedTicks`**, `Binary64.lt_iff_signedTicks` : for finite `x` and `y`,
  `x ≤ y` and `x < y` are the same comparisons of their signed ticks;
* `Binary64.neg_le_neg_iff_float` : negation reverses the order of every pair of numbers, NaN
  and the zeros included (`compare_neg_unpacked`).
-/

namespace SailSim.Binary64

open Float.Model Float.Model.UnpackedFloat

/-! ### The order in ticks -/

theorem ticks_pos {m : Nat} (hm : 0 < m) (e : Int) : 0 < ticks m e :=
  Nat.mul_pos hm (Nat.two_pow_pos _)

/-- A canonical number with a smaller exponent has fewer ticks. -/
theorem ticks_lt_of_exponent_lt {m₁ m₂ : Nat} {e₁ e₂ : Int} (h₁ : Canonical m₁ e₁)
    (h₂ : Canonical m₂ e₂) (he : e₁ < e₂) : ticks m₁ e₁ < ticks m₂ e₂ := by
  obtain ⟨hm₁, he₁, -⟩ := h₁
  obtain ⟨-, he₂, hn₂⟩ := h₂
  have hm₂ : 2 ^ 52 ≤ m₂ := hn₂.resolve_right (by omega)
  have hpow : 2 ^ (e₂ + 1074).toNat = 2 ^ (e₁ + 1074).toNat * 2 ^ ((e₂ - e₁).toNat - 1) * 2 := by
    rw [← Nat.pow_add, ← Nat.pow_succ]; congr 1; omega
  unfold ticks
  calc m₁ * 2 ^ (e₁ + 1074).toNat < 2 ^ 53 * 2 ^ (e₁ + 1074).toNat :=
        Nat.mul_lt_mul_of_pos_right hm₁ (Nat.two_pow_pos _)
    _ ≤ 2 ^ 52 * 2 ^ (e₂ + 1074).toNat := by
        rw [hpow]
        have := Nat.one_le_two_pow (n := (e₂ - e₁).toNat - 1)
        calc 2 ^ 53 * 2 ^ (e₁ + 1074).toNat = 2 ^ 52 * (2 ^ (e₁ + 1074).toNat * 1 * 2) := by ring
          _ ≤ 2 ^ 52 * (2 ^ (e₁ + 1074).toNat * 2 ^ ((e₂ - e₁).toNat - 1) * 2) := by gcongr
    _ ≤ m₂ * 2 ^ (e₂ + 1074).toNat := Nat.mul_le_mul_right _ hm₂

/-- Canonical numbers compare by exponent, then mantissa, exactly as their ticks do. -/
theorem compare_lex_eq {m₁ m₂ : Nat} {e₁ e₂ : Int} (h₁ : Canonical m₁ e₁) (h₂ : Canonical m₂ e₂) :
    (compare e₁ e₂).then (compare m₁ m₂) = compare (ticks m₁ e₁) (ticks m₂ e₂) := by
  rcases lt_trichotomy e₁ e₂ with he | rfl | he
  · rw [Int.compare_eq_lt.mpr he, Nat.compare_eq_lt.mpr (ticks_lt_of_exponent_lt h₁ h₂ he)]
    rfl
  · rw [Int.compare_eq_eq.mpr rfl]
    simp only [Ordering.eq_then, ticks]
    rcases lt_trichotomy m₁ m₂ with hm | rfl | hm
    · rw [Nat.compare_eq_lt.mpr hm, Nat.compare_eq_lt.mpr
        (Nat.mul_lt_mul_of_pos_right hm (Nat.two_pow_pos _))]
    · simp
    · rw [Nat.compare_eq_gt.mpr hm, Nat.compare_eq_gt.mpr
        (Nat.mul_lt_mul_of_pos_right hm (Nat.two_pow_pos _))]
  · rw [Int.compare_eq_gt.mpr he, Nat.compare_eq_gt.mpr (ticks_lt_of_exponent_lt h₂ h₁ he)]
    rfl

/-- The value of a zero or a finite number in ticks, with its sign; an infinity or NaN reads as
zero. -/
def signedTicks : UnpackedFloat → Int
  | .finite s m e _ => s.apply (ticks m e)
  | _ => 0

theorem signedTicks_finite (s : Sign) (M : Nat) (T : Int) (h : 0 < M) :
    signedTicks (.finite s M T h) = s.apply (ticks M T) := rfl

theorem signedTicks_zero : signedTicks (0 : Float).toModel.unpack = 0 := rfl

theorem isFinite_zero : (0 : Float).isFinite = true := rfl

theorem isFinite_of_unpack_finite {x : Float} {s : Sign} {M : Nat} {T : Int} {hM : 0 < M}
    (hu : x.toModel.unpack = .finite s M T hM) : x.isFinite = true := by
  show x.toModel.unpack.isFinite = true
  rw [hu]; rfl

theorem compare_neg_neg (a b : Int) : compare (-a) (-b) = (compare a b).swap := by
  rcases lt_trichotomy a b with h | rfl | h
  · rw [Int.compare_eq_lt.mpr h, Int.compare_eq_gt.mpr (by omega)]; rfl
  · simp
  · rw [Int.compare_eq_gt.mpr h, Int.compare_eq_lt.mpr (by omega)]; rfl

theorem compare_natCast (a b : Nat) : compare (a : Int) b = compare a b := by
  rcases lt_trichotomy a b with h | rfl | h
  · rw [Nat.compare_eq_lt.mpr h, Int.compare_eq_lt.mpr (by omega)]
  · simp
  · rw [Nat.compare_eq_gt.mpr h, Int.compare_eq_gt.mpr (by omega)]

/-- Two finite numbers compare as their signed ticks. -/
theorem compare_eq_signedTicks {x y : Float} (hx : x.isFinite = true) (hy : y.isFinite = true) :
    x.toModel.unpack.compare y.toModel.unpack =
      some (compare (signedTicks x.toModel.unpack) (signedTicks y.toModel.unpack)) := by
  have hxf : x.toModel.unpack.isFinite = true := hx
  have hyf : y.toModel.unpack.isFinite = true := hy
  cases hux : x.toModel.unpack with
  | infinity s => rw [hux] at hxf; cases hxf
  | notANumber => rw [hux] at hxf; cases hxf
  | zero s₁ =>
    cases huy : y.toModel.unpack with
    | infinity s => rw [huy] at hyf; cases hyf
    | notANumber => rw [huy] at hyf; cases hyf
    | zero s₂ => rfl
    | finite s₂ m₂ e₂ h₂ =>
      have ht := ticks_pos h₂ e₂
      cases s₂
      · simp only [UnpackedFloat.compare, signedTicks, Sign.apply]
        rw [Int.compare_eq_gt.mpr (by omega)]
      · simp only [UnpackedFloat.compare, signedTicks, Sign.apply]
        rw [Int.compare_eq_lt.mpr (by omega)]
  | finite s₁ m₁ e₁ h₁ =>
    have ht₁ := ticks_pos h₁ e₁
    cases huy : y.toModel.unpack with
    | infinity s => rw [huy] at hyf; cases hyf
    | notANumber => rw [huy] at hyf; cases hyf
    | zero s₂ =>
      cases s₁
      · simp only [UnpackedFloat.compare, signedTicks, Sign.apply]
        rw [Int.compare_eq_lt.mpr (by omega)]
      · simp only [UnpackedFloat.compare, signedTicks, Sign.apply]
        rw [Int.compare_eq_gt.mpr (by omega)]
    | finite s₂ m₂ e₂ h₂ =>
      have ht₂ := ticks_pos h₂ e₂
      have hc₁ := (unpack_canonical hux).1
      have hc₂ := (unpack_canonical huy).1
      cases s₁ <;> cases s₂
      · simp only [UnpackedFloat.compare, signedTicks, Sign.apply, compare_neg_neg,
          compare_lex_eq hc₁ hc₂, compare_natCast]
      · simp only [UnpackedFloat.compare, signedTicks, Sign.apply]
        rw [Int.compare_eq_lt.mpr (by omega)]
      · simp only [UnpackedFloat.compare, signedTicks, Sign.apply]
        rw [Int.compare_eq_gt.mpr (by omega)]
      · simp only [UnpackedFloat.compare, signedTicks, Sign.apply, compare_lex_eq hc₁ hc₂,
          compare_natCast]

theorem le_iff_signedTicks {x y : Float} (hx : x.isFinite = true) (hy : y.isFinite = true) :
    x ≤ y ↔ signedTicks x.toModel.unpack ≤ signedTicks y.toModel.unpack := by
  rw [le_iff_unpack]
  unfold UnpackedFloat.le
  rw [compare_eq_signedTicks hx hy]
  simp [Int.isLE_compare]

theorem lt_iff_signedTicks {x y : Float} (hx : x.isFinite = true) (hy : y.isFinite = true) :
    x < y ↔ signedTicks x.toModel.unpack < signedTicks y.toModel.unpack := by
  rw [lt_iff_unpack]
  unfold UnpackedFloat.lt
  rw [compare_eq_signedTicks hx hy]
  simp [Int.compare_eq_lt]

/-! ### Negation -/

theorem compare_sign_neg (s t : Sign) : compare (-s) (-t) = compare t s := by
  cases s <;> cases t <;> rfl

/-- Negation reverses the order of unpacked numbers, `NaN` and the zeros included. -/
theorem compare_neg_unpacked (a b : UnpackedFloat) : a.neg.compare b.neg = b.compare a := by
  rcases a with s | _ | s | ⟨s, m, e, hm⟩ <;> rcases b with t | _ | t | ⟨t, n, f, hn⟩ <;>
    (try cases s) <;> (try cases t) <;> try rfl
  all_goals
    show some _ = some _
    simp only [Ordering.swap_then, Int.compare_swap, Nat.compare_swap]

theorem neg_le_neg_iff_float (x y : Float) : -x ≤ -y ↔ y ≤ x := by
  rw [le_iff_unpack, le_iff_unpack, unpack_neg_eq, unpack_neg_eq]
  show (x.toModel.unpack.neg.compare y.toModel.unpack.neg).any _ = true ↔
    (y.toModel.unpack.compare x.toModel.unpack).any _ = true
  rw [compare_neg_unpacked]

end SailSim.Binary64
