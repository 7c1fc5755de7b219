import Mathlib
import SailSim.Proofs.Binary64.Round

/-!
# Signed zeros

Binary64 has two zeros, and which one an operation gives depends on the signs of its operands
and on the order of a sum: `-(x + y)` and `-x + -y` are the same number unless both are zeros
of opposite signs.  A computation that keeps a quantity at zero keeps it at *a* zero, and a
computation that keeps two quantities equal keeps them equal up to the sign of a zero.  This
module gives the relation that says so and the algebra of `Float` that respects it:

* `Binary64.roundWithAccuracy_neg`, `Binary64.ofModel_pack_neg` : rounding and packing read the
  sign only at the end, so they commute with negation;
* `Binary64.EqUpToZeroSign` : the same number, or zeros of any signs; sums, differences,
  products, negations and square roots of related numbers are related
  (`EqUpToZeroSign.add` and the others);
* `Binary64.float_mul_comm`, `Binary64.float_add_comm`, `Binary64.float_sub_eq_add_neg`,
  `Binary64.float_mul_neg`, `Binary64.float_neg_mul` : exact identities, bit for bit;
* `Binary64.neg_add_eqUpToZeroSign`, `Binary64.add_zero_eqUpToZeroSign` and the others :
  identities that hold up to the sign of a zero;
* `Binary64.isFinite_of_mul_isFinite` and the others : a finite result has finite operands;
* `Binary64.Unsigned` : `+0`, a positive number or `+∞`; squares, their sums, square roots and
  reciprocals of such numbers are such numbers.
-/

namespace SailSim.Binary64

open Float.Model Float.Model.UnpackedFloat

/-! ### Negation commutes with rounding and packing -/

theorem sign_mul_neg (s t : Sign) : s * -t = -(s * t) := by
  cases s <;> cases t <;> rfl

theorem sign_mul_comm (s t : Sign) : s * t = t * s := by
  cases s <;> cases t <;> rfl

theorem sign_mul_self (s : Sign) : s * s = .positive := by
  cases s <;> rfl

theorem sign_neg_apply (s : Sign) (n : Int) : (-s).apply n = -s.apply n := by
  cases s <;> simp [Sign.apply]

/-- Rounding reads the sign only to attach it to the rounded magnitude. -/
theorem roundWithAccuracy_neg (s : Sign) (m : Nat) (e : Int) (a : Accuracy) :
    roundWithAccuracy Format.binary64 (-s) m e a = (roundWithAccuracy Format.binary64 s m e a).neg := by
  simp only [roundWithAccuracy]
  split <;> rfl

theorem round_neg (s : Sign) (m : Nat) (e : Int) :
    UnpackedFloat.round Format.binary64 (-s) m e = (UnpackedFloat.round Format.binary64 s m e).neg :=
  roundWithAccuracy_neg s _ _ _

theorem unpack_packComponents_neg (s : Sign) (E : BitVec 11) (M : BitVec 52) :
    UnpackedFloat.unpack Format.binary64 (packComponents Format.binary64 (-s) E M) =
      (UnpackedFloat.unpack Format.binary64 (packComponents Format.binary64 s E M)).neg := by
  unfold UnpackedFloat.unpack
  simp only [unpackSign_packComponents, ofBitVec_toBitVec, unpackExponent_packComponents,
    unpackMantissa_packComponents]
  split_ifs <;> rfl

/-- Packing a negated result gives the negation of the packed result, overflow included. -/
theorem unpack_pack_neg_comm (u : UnpackedFloat) :
    (Float.Model.pack u.neg).unpack = (Float.Model.pack u).unpack.neg := by
  cases u with
  | notANumber => rfl
  | infinity s => cases s <;> rfl
  | zero s => cases s <;> rfl
  | finite s m e hm =>
    simp only [Float.Model.unpack, Float.Model.pack, UInt64.toBitVec_ofBitVec, UnpackedFloat.neg,
      UnpackedFloat.pack]
    split_ifs <;> exact unpack_packComponents_neg ..

theorem ofModel_pack_neg (u : UnpackedFloat) :
    Float.ofModel (Float.Model.pack u.neg) = -Float.ofModel (Float.Model.pack u) := by
  apply float_eq_of_unpack_eq
  rw [unpack_neg_eq]
  exact unpack_pack_neg_comm u

/-! ### Exact identities -/

theorem mul_comm_unpacked (u v : UnpackedFloat) :
    UnpackedFloat.mul Format.binary64 u v = UnpackedFloat.mul Format.binary64 v u := by
  cases u <;> cases v <;> simp only [UnpackedFloat.mul, sign_mul_comm, Nat.mul_comm, Int.add_comm]

theorem mul_neg_unpacked (u v : UnpackedFloat) :
    UnpackedFloat.mul Format.binary64 u v.neg = (UnpackedFloat.mul Format.binary64 u v).neg := by
  cases u <;> cases v <;>
    simp only [UnpackedFloat.mul, UnpackedFloat.neg, sign_mul_neg, roundWithAccuracy_neg]

theorem add_comm_unpacked (u v : UnpackedFloat) :
    UnpackedFloat.add Format.binary64 u v = UnpackedFloat.add Format.binary64 v u := by
  cases u with
  | finite s m e hm =>
    cases v with
    | finite t n f hn => simp only [UnpackedFloat.add, min_comm e f, Int.add_comm]
    | _ => rfl
  | infinity s => cases v <;> first | rfl | (rename_i t; cases s <;> cases t <;> rfl)
  | zero s => cases v <;> first | rfl | (rename_i t; cases s <;> cases t <;> rfl)
  | notANumber => cases v <;> rfl

theorem sub_eq_add_neg_unpacked (u v : UnpackedFloat) :
    UnpackedFloat.sub Format.binary64 u v = UnpackedFloat.add Format.binary64 u v.neg := by
  cases u <;> cases v <;>
    simp only [UnpackedFloat.sub, UnpackedFloat.add, UnpackedFloat.neg, sign_neg_apply,
      Int.sub_eq_add_neg]

theorem float_mul_comm (x y : Float) : x * y = y * x := by
  show Float.ofModel (Float.Model.pack _) = Float.ofModel (Float.Model.pack _)
  rw [mul_comm_unpacked]

theorem float_add_comm (x y : Float) : x + y = y + x := by
  show Float.ofModel (Float.Model.pack _) = Float.ofModel (Float.Model.pack _)
  rw [add_comm_unpacked]

theorem float_sub_eq_add_neg (x y : Float) : x - y = x + -y := by
  show Float.ofModel (Float.Model.pack _) = Float.ofModel (Float.Model.pack _)
  rw [unpack_neg_eq, sub_eq_add_neg_unpacked]

theorem float_mul_neg (x y : Float) : x * -y = -(x * y) := by
  show Float.ofModel (Float.Model.pack _) = _
  rw [unpack_neg_eq, mul_neg_unpacked, ofModel_pack_neg]
  rfl

theorem float_neg_mul (x y : Float) : -x * y = -(x * y) := by
  rw [float_mul_comm, float_mul_neg, float_mul_comm]

/-! ### Equal up to the sign of a zero -/

/-- The number with the sign of a zero forgotten: `+0` and `-0` are one value. -/
def unsignZero : UnpackedFloat → UnpackedFloat
  | .zero _ => .zero .positive
  | u => u

theorem unsignZero_add (u v : UnpackedFloat) :
    unsignZero (UnpackedFloat.add Format.binary64 u v) =
      unsignZero (UnpackedFloat.add Format.binary64 (unsignZero u) (unsignZero v)) := by
  cases u with
  | zero s =>
    cases v with
    | zero t => simp only [unsignZero, UnpackedFloat.add]; split_ifs <;> rfl
    | _ => rfl
  | _ => cases v <;> rfl

theorem unsignZero_mul (u v : UnpackedFloat) :
    unsignZero (UnpackedFloat.mul Format.binary64 u v) =
      unsignZero (UnpackedFloat.mul Format.binary64 (unsignZero u) (unsignZero v)) := by
  cases u <;> cases v <;> rfl

theorem unsignZero_neg (u : UnpackedFloat) : unsignZero u.neg = unsignZero (unsignZero u).neg := by
  cases u <;> rfl

theorem unsignZero_sqrt (u : UnpackedFloat) :
    unsignZero (UnpackedFloat.sqrt Format.binary64 u) =
      unsignZero (UnpackedFloat.sqrt Format.binary64 (unsignZero u)) := by
  cases u <;> rfl

theorem unsignZero_unpack_pack (u : UnpackedFloat) :
    unsignZero (Float.Model.pack u).unpack = unsignZero (Float.Model.pack (unsignZero u)).unpack := by
  cases u with
  | zero s => cases s <;> rfl
  | _ => rfl

theorem unsignZero_eq_iff {u v : UnpackedFloat} :
    unsignZero u = unsignZero v ↔ u = v ∨ ((∃ s, u = .zero s) ∧ ∃ t, v = .zero t) := by
  cases u <;> cases v <;> simp [unsignZero]

/-- `x` and `y` are the same number, or are zeros of any signs. -/
def EqUpToZeroSign (x y : Float) : Prop := unsignZero x.toModel.unpack = unsignZero y.toModel.unpack

namespace EqUpToZeroSign

variable {x x' y y' z : Float}

@[refl] theorem refl (x : Float) : EqUpToZeroSign x x := rfl

@[symm] theorem symm (h : EqUpToZeroSign x y) : EqUpToZeroSign y x := Eq.symm h

@[trans] theorem trans (h : EqUpToZeroSign x y) (h' : EqUpToZeroSign y z) : EqUpToZeroSign x z :=
  Eq.trans h h'

/-- An operation that sees zeros only through `unsignZero` maps related operands to related
results. -/
theorem pack {u v : UnpackedFloat} (h : unsignZero u = unsignZero v) :
    EqUpToZeroSign (.ofModel (Float.Model.pack u)) (.ofModel (Float.Model.pack v)) := by
  show unsignZero (Float.Model.pack u).unpack = unsignZero (Float.Model.pack v).unpack
  rw [unsignZero_unpack_pack, h, ← unsignZero_unpack_pack]

theorem add (hx : EqUpToZeroSign x x') (hy : EqUpToZeroSign y y') :
    EqUpToZeroSign (x + y) (x' + y') :=
  pack (by rw [unsignZero_add, hx, hy, ← unsignZero_add])

theorem mul (hx : EqUpToZeroSign x x') (hy : EqUpToZeroSign y y') :
    EqUpToZeroSign (x * y) (x' * y') :=
  pack (by rw [unsignZero_mul, hx, hy, ← unsignZero_mul])

theorem neg (hx : EqUpToZeroSign x x') : EqUpToZeroSign (-x) (-x') :=
  pack (by rw [unsignZero_neg, hx, ← unsignZero_neg])

theorem sub (hx : EqUpToZeroSign x x') (hy : EqUpToZeroSign y y') :
    EqUpToZeroSign (x - y) (x' - y') := by
  rw [float_sub_eq_add_neg, float_sub_eq_add_neg]
  exact hx.add hy.neg

theorem sqrt (hx : EqUpToZeroSign x x') : EqUpToZeroSign x.sqrt x'.sqrt :=
  pack (by rw [unsignZero_sqrt, hx, ← unsignZero_sqrt])

theorem iff : EqUpToZeroSign x y ↔ x = y ∨ ((x == 0) = true ∧ (y == 0) = true) := by
  rw [beq_zero_iff, beq_zero_iff, EqUpToZeroSign, unsignZero_eq_iff]
  constructor
  · rintro (h | h)
    · exact .inl (float_eq_of_unpack_eq h)
    · exact .inr h
  · rintro (rfl | h)
    · exact .inl rfl
    · exact .inr h

theorem of_beq_zero (hx : (x == 0) = true) (hy : (y == 0) = true) : EqUpToZeroSign x y :=
  iff.2 (.inr ⟨hx, hy⟩)

theorem beq_zero (h : EqUpToZeroSign x y) (hx : (x == 0) = true) : (y == 0) = true := by
  rcases iff.1 h with rfl | ⟨-, hy⟩
  · exact hx
  · exact hy

/-- Related numbers are equal unless they are zeros. -/
theorem eq_of_beq_zero_eq_false (h : EqUpToZeroSign x y) (hy : (y == 0) = false) : x = y := by
  rcases iff.1 h with rfl | ⟨-, hy'⟩
  · rfl
  · rw [hy] at hy'
    cases hy'

theorem isFinite_eq (h : EqUpToZeroSign x y) : x.isFinite = y.isFinite := by
  rcases iff.1 h with rfl | ⟨hx, hy⟩
  · rfl
  · obtain ⟨s, hs⟩ := (beq_zero_iff x).1 hx
    obtain ⟨t, ht⟩ := (beq_zero_iff y).1 hy
    show x.toModel.unpack.isFinite = y.toModel.unpack.isFinite
    rw [hs, ht]
    rfl

/-- Squaring forgets the sign of a zero: the square of either zero is `+0`. -/
theorem mul_self (h : EqUpToZeroSign x y) : x * x = y * y := by
  rcases iff.1 h with rfl | ⟨hx, hy⟩
  · rfl
  · obtain ⟨s, hs⟩ := (beq_zero_iff x).1 hx
    obtain ⟨t, ht⟩ := (beq_zero_iff y).1 hy
    show Float.ofModel (Float.Model.pack _) = Float.ofModel (Float.Model.pack _)
    rw [hs, ht]
    simp only [UnpackedFloat.mul, sign_mul_self]

end EqUpToZeroSign

/-- A result that forgets signed zeros as `x` does is related to `x`. -/
theorem eqUpToZeroSign_of_unsignZero {u : UnpackedFloat} {x : Float}
    (h : unsignZero u = unsignZero x.toModel.unpack) :
    EqUpToZeroSign (.ofModel (Float.Model.pack u)) x := by
  have hx := EqUpToZeroSign.pack h
  rwa [model_pack_unpack] at hx

/-! ### Identities up to the sign of a zero -/

theorem add_zero_eqUpToZeroSign (x : Float) {z : Float} (hz : (z == 0) = true) :
    EqUpToZeroSign (x + z) x := by
  obtain ⟨t, ht⟩ := (beq_zero_iff z).1 hz
  apply eqUpToZeroSign_of_unsignZero
  rw [ht]
  cases x.toModel.unpack with
  | zero s => simp only [unsignZero, UnpackedFloat.add]; split_ifs <;> rfl
  | _ => rfl

theorem sub_zero_eqUpToZeroSign (x : Float) {z : Float} (hz : (z == 0) = true) :
    EqUpToZeroSign (x - z) x := by
  rw [float_sub_eq_add_neg]
  exact add_zero_eqUpToZeroSign x (neg_beq_zero hz)

theorem zero_sub_eqUpToZeroSign {z : Float} (hz : (z == 0) = true) (x : Float) :
    EqUpToZeroSign (z - x) (-x) := by
  rw [float_sub_eq_add_neg, float_add_comm]
  exact add_zero_eqUpToZeroSign (-x) hz

/-- The normalized negation of an integer mantissa is the negation of its normalization, but
for the sign of a zero. -/
theorem unsignZero_normalize_neg (k e : Int) :
    unsignZero (normalize Format.binary64 (-k) e .positive) =
      unsignZero (normalize Format.binary64 k e .positive).neg := by
  rcases lt_trichotomy k 0 with hk | rfl | hk
  · have hlt : compare k 0 = .lt := compare_lt_iff_lt.2 hk
    have hgt : compare (-k) 0 = .gt := compare_gt_iff_gt.2 (by omega)
    simp only [UnpackedFloat.normalize, hlt, hgt]
    rw [show Sign.positive = -Sign.negative from rfl, round_neg]
  · rfl
  · have hgt : compare k 0 = .gt := compare_gt_iff_gt.2 hk
    have hlt : compare (-k) 0 = .lt := compare_lt_iff_lt.2 (by omega)
    simp only [UnpackedFloat.normalize, hgt, hlt, Int.neg_neg]
    rw [show Sign.negative = -Sign.positive from rfl, round_neg]

theorem unsignZero_add_neg (u v : UnpackedFloat) :
    unsignZero (UnpackedFloat.add Format.binary64 u.neg v.neg) =
      unsignZero (UnpackedFloat.add Format.binary64 u v).neg := by
  cases u with
  | finite s m e hm =>
    cases v with
    | finite t n f hn =>
      simp only [UnpackedFloat.add, UnpackedFloat.neg, sign_neg_apply, ← Int.neg_add]
      exact unsignZero_normalize_neg ..
    | _ => rfl
  | infinity s => cases v <;> first | rfl | (rename_i t; cases s <;> cases t <;> rfl)
  | zero s => cases v <;> first | rfl | (rename_i t; cases s <;> cases t <;> rfl)
  | notANumber => cases v <;> rfl

/-- Negation distributes over a sum, but for the sign of a zero: `-(x + y)` is `+0` where
`-x + -y` is `-0`, when `x` and `y` are opposite numbers. -/
theorem neg_add_eqUpToZeroSign (x y : Float) : EqUpToZeroSign (-(x + y)) (-x + -y) := by
  show EqUpToZeroSign (-Float.ofModel (Float.Model.pack _)) (.ofModel (Float.Model.pack _))
  rw [← ofModel_pack_neg, unpack_neg_eq, unpack_neg_eq]
  exact EqUpToZeroSign.pack (unsignZero_add_neg _ _).symm

/-- A finite number plus its negation is a zero. -/
theorem neg_add_cancel_of_isFinite {x : Float} (hx : x.isFinite = true) : (-x + x == 0) = true := by
  have hxu : x.toModel.unpack.isFinite = true := hx
  rw [beq_zero_iff]
  show ∃ s, (Float.Model.pack (UnpackedFloat.add _ (-x).toModel.unpack x.toModel.unpack)).unpack = _
  rw [unpack_neg_eq]
  cases hu : x.toModel.unpack with
  | zero s => cases s <;> exact ⟨_, rfl⟩
  | finite s m e hm =>
    simp only [UnpackedFloat.neg, UnpackedFloat.add, sign_neg_apply, neg_add_cancel]
    exact ⟨_, unpack_pack_zero _⟩
  | infinity s => rw [hu] at hxu; cases hxu
  | notANumber => rw [hu] at hxu; cases hxu

/-! ### A finite result has finite operands

A product with an infinity is an infinity or (against a zero) NaN, and a sum with an infinity
is that infinity or (against the opposite one) NaN. -/

/-- Packing never turns NaN or an infinity into a finite number. -/
theorem isFinite_unpack_pack_eq_false {u : UnpackedFloat} (h : u.isFinite = false) :
    (Float.Model.pack u).unpack.isFinite = false := by
  cases u with
  | notANumber => decide
  | infinity s => rw [unpack_pack_infinity]; rfl
  | zero s => cases h
  | finite s m e hm => cases h

theorem mul_isFinite_right (x : Float) {y : Float} (hy : y.isFinite = false) :
    (x * y).isFinite = false := by
  have hyu : y.toModel.unpack.isFinite = false := hy
  show (Float.Model.pack
    (UnpackedFloat.mul Format.binary64 x.toModel.unpack y.toModel.unpack)).unpack.isFinite = false
  apply isFinite_unpack_pack_eq_false
  cases hv : y.toModel.unpack with
  | notANumber => cases x.toModel.unpack <;> rfl
  | infinity s => cases x.toModel.unpack <;> rfl
  | zero s => rw [hv] at hyu; cases hyu
  | finite s m e hm => rw [hv] at hyu; cases hyu

theorem add_isFinite_right (x : Float) {y : Float} (hy : y.isFinite = false) :
    (x + y).isFinite = false := by
  have hyu : y.toModel.unpack.isFinite = false := hy
  show (Float.Model.pack
    (UnpackedFloat.add Format.binary64 x.toModel.unpack y.toModel.unpack)).unpack.isFinite = false
  apply isFinite_unpack_pack_eq_false
  cases hv : y.toModel.unpack with
  | notANumber => cases x.toModel.unpack <;> rfl
  | infinity s =>
    cases x.toModel.unpack with
    | infinity s' => cases s <;> cases s' <;> rfl
    | _ => rfl
  | zero s => rw [hv] at hyu; cases hyu
  | finite s m e hm => rw [hv] at hyu; cases hyu

theorem isFinite_of_mul_isFinite {x y : Float} (h : (x * y).isFinite = true) :
    x.isFinite = true ∧ y.isFinite = true := by
  constructor
  · by_contra hx
    rw [float_mul_comm, mul_isFinite_right y (Bool.eq_false_iff.2 hx)] at h
    cases h
  · by_contra hy
    rw [mul_isFinite_right x (Bool.eq_false_iff.2 hy)] at h
    cases h

theorem isFinite_of_add_isFinite {x y : Float} (h : (x + y).isFinite = true) :
    x.isFinite = true ∧ y.isFinite = true := by
  constructor
  · by_contra hx
    rw [float_add_comm, add_isFinite_right y (Bool.eq_false_iff.2 hx)] at h
    cases h
  · by_contra hy
    rw [add_isFinite_right x (Bool.eq_false_iff.2 hy)] at h
    cases h

theorem isFinite_neg (x : Float) : (-x).isFinite = x.isFinite := by
  show (-x).toModel.unpack.isFinite = x.toModel.unpack.isFinite
  rw [unpack_neg_eq]
  cases x.toModel.unpack <;> rfl

theorem isFinite_of_sub_isFinite {x y : Float} (h : (x - y).isFinite = true) :
    x.isFinite = true ∧ y.isFinite = true := by
  rw [float_sub_eq_add_neg] at h
  rw [← isFinite_neg y]
  exact isFinite_of_add_isFinite h

theorem unpack_one : (1 : Float).toModel.unpack = .finite .positive (2 ^ 52) (-52) (by decide) := by
  apply eq_finite_of_positiveParts
  decide +kernel

/-- One over a zero is an infinity, so a finite reciprocal has a divisor that is no zero. -/
theorem beq_zero_eq_false_of_one_div {y : Float} (h : (1 / y).isFinite = true) :
    (y == 0) = false := by
  by_contra hy
  obtain ⟨s, hs⟩ := (beq_zero_iff y).1 (Bool.not_eq_false _ ▸ hy)
  have hdiv : (1 / y).toModel.unpack = .infinity (.positive / s) := by
    show (Float.Model.pack (UnpackedFloat.div _ _ _)).unpack = _
    rw [unpack_one, hs]
    exact unpack_pack_infinity _
  have hfin : (1 / y).toModel.unpack.isFinite = true := h
  rw [hdiv] at hfin
  cases hfin

/-! ### Numbers of positive sign -/

/-- `+0`, a positive number or `+∞`. -/
def Unsigned (x : Float) : Prop := HasSign .positive x.toModel.unpack

theorem unsigned_of_unpack {u : UnpackedFloat} (h : HasSign .positive u) :
    Unsigned (.ofModel (Float.Model.pack u)) :=
  hasSign_unpack_pack h

/-- A square is `+0`, positive or `+∞`, whatever the sign of what is squared. -/
theorem unsigned_mul_self {x : Float} (hx : x.isNaN = false) : Unsigned (x * x) := by
  have hxu : x.toModel.unpack.isNaN = false := hx
  apply unsigned_of_unpack
  cases hu : x.toModel.unpack with
  | finite s m e hm =>
    simp only [UnpackedFloat.mul, sign_mul_self]
    exact hasSign_roundWithAccuracy ..
  | zero s => exact sign_mul_self s
  | infinity s => exact sign_mul_self s
  | notANumber => rw [hu] at hxu; cases hxu

theorem hasSign_add_positive {u v : UnpackedFloat} (hu : HasSign .positive u)
    (hv : HasSign .positive v) : HasSign .positive (UnpackedFloat.add Format.binary64 u v) := by
  cases u with
  | finite s m e hm =>
    cases v with
    | finite t n f hn =>
      obtain rfl : s = .positive := hu
      obtain rfl : t = .positive := hv
      -- two positive mantissas, aligned to the smaller exponent, have a positive sum
      have hpos : 0 < Sign.positive.apply ((decreaseExponent m e (min e f)).1 : Int) +
          Sign.positive.apply ((decreaseExponent n f (min e f)).1 : Int) := by
        simp only [Sign.apply, decreaseExponent, Nat.shiftLeft_eq]
        positivity
      simp only [UnpackedFloat.add, UnpackedFloat.normalize, compare_gt_iff_gt.2 hpos]
      exact hasSign_roundWithAccuracy ..
    | zero t => exact hu
    | infinity t => exact hv
    | notANumber => exact hv.elim
  | zero s =>
    cases v with
    | zero t =>
      obtain rfl : s = .positive := hu
      obtain rfl : t = .positive := hv
      rfl
    | _ => exact hv
  | infinity s =>
    cases v with
    | infinity t =>
      obtain rfl : s = .positive := hu
      obtain rfl : t = .positive := hv
      rfl
    | notANumber => exact hv.elim
    | _ => exact hu
  | notANumber => exact hu.elim

theorem hasSign_mul {s t : Sign} {u v : UnpackedFloat} (hu : HasSign s u) (hv : HasSign t v)
    (h : (UnpackedFloat.mul Format.binary64 u v).isNaN = false) :
    HasSign (s * t) (UnpackedFloat.mul Format.binary64 u v) := by
  cases u <;> cases v <;> simp only [HasSign] at hu hv <;> subst hu hv
  -- an infinity times a zero is the one product with no sign
  all_goals first
    | exact hasSign_roundWithAccuracy ..
    | rfl
    | simp [UnpackedFloat.mul, UnpackedFloat.isNaN] at h

theorem Unsigned.add {x y : Float} (hx : Unsigned x) (hy : Unsigned y) : Unsigned (x + y) :=
  unsigned_of_unpack (hasSign_add_positive hx hy)

theorem Unsigned.sqrt {x : Float} (hx : Unsigned x) : Unsigned x.sqrt := by
  apply unsigned_of_unpack
  revert hx
  unfold Unsigned
  cases x.toModel.unpack with
  | finite s m e hm =>
    rintro rfl
    exact hasSign_roundWithAccuracy ..
  | zero s => exact id
  | infinity s => rintro rfl; rfl
  | notANumber => exact id

/-- One over `+0`, a positive number or `+∞` is `+∞`, a positive number or `+0`. -/
theorem Unsigned.one_div {y : Float} (hy : Unsigned y) : Unsigned (1 / y) := by
  apply unsigned_of_unpack
  rw [unpack_one]
  revert hy
  unfold Unsigned
  cases y.toModel.unpack with
  | finite s m e hm =>
    rintro rfl
    exact hasSign_roundWithAccuracy ..
  | zero s => rintro rfl; rfl
  | infinity s => rintro rfl; rfl
  | notANumber => exact id

theorem Unsigned.mul {x y : Float} (hx : Unsigned x) (hy : Unsigned y) (h : (x * y).isNaN = false) :
    Unsigned (x * y) := by
  have hu : (UnpackedFloat.mul Format.binary64 x.toModel.unpack y.toModel.unpack).isNaN = false := by
    rw [← isNaN_unpack_pack]
    exact h
  exact unsigned_of_unpack (hasSign_mul hx hy hu)

theorem sign_unpack_of_hasSign {s : Sign} {b : BitVec 64}
    (h : HasSign s (UnpackedFloat.unpack Format.binary64 b)) :
    Sign.ofBitVec (@unpackSign Format.binary64 b) = s := by
  revert h
  unfold UnpackedFloat.unpack
  dsimp only
  split_ifs <;> intro h <;> first | exact h | exact h.elim

theorem Unsigned.isNaN_eq_false {x : Float} (hx : Unsigned x) : x.isNaN = false := by
  rw [isNaN_eq_unpack]
  revert hx
  unfold Unsigned
  cases x.toModel.unpack <;> first | exact False.elim | intro; rfl

theorem Unsigned.signBit_eq_false {x : Float} (hx : Unsigned x) : signBit x = false := by
  have hs := sign_of_signBit x
  rw [sign_unpack_of_hasSign hx] at hs
  cases hb : signBit x
  · rfl
  · simp [hb] at hs

theorem Unsigned.zero_le {x : Float} (hx : Unsigned x) : (0 : Float) ≤ x := by
  rw [le_iff_unpack, unpack_zero]
  revert hx
  unfold Unsigned
  cases x.toModel.unpack with
  | finite s m e hm => rintro rfl; rfl
  | zero s => rintro rfl; rfl
  | infinity s => rintro rfl; rfl
  | notANumber => exact False.elim

/-- A finite number of positive sign is `+0` or positive. -/
theorem Unsigned.eq_zero_or_pos {x : Float} (hx : Unsigned x) (hf : x.isFinite = true) :
    x = 0 ∨ 0 < x := by
  have hfu : x.toModel.unpack.isFinite = true := hf
  revert hx hfu
  unfold Unsigned
  cases hu : x.toModel.unpack with
  | finite s m e hm =>
    rintro rfl -
    right
    rw [lt_iff_unpack, unpack_zero, hu]
    rfl
  | zero s =>
    rintro rfl -
    left
    exact float_eq_of_unpack_eq (hu.trans unpack_zero.symm)
  | infinity s => intro _ h; cases h
  | notANumber => exact False.elim

/-! ### Zeros against the constants of a comparison -/

theorem copySign_zero_beq_zero (y : Float) : (copySign 0 y == 0) = true := by
  have hbits : (0 : Float).toBits &&& 0x7FFFFFFFFFFFFFFF = 0 := by decide
  have hsign : y.toBits &&& 0x8000000000000000 = 0 ∨
      y.toBits &&& 0x8000000000000000 = 0x8000000000000000 := by
    have hand : (y.toBits &&& 0x8000000000000000).toNat = (y.toBits.toNat.testBit 63).toNat * 2 ^ 63 := by
      rw [UInt64.toNat_and, show (0x8000000000000000 : UInt64).toNat = 2 ^ 63 from rfl, Nat.and_two_pow]
    cases hb : y.toBits.toNat.testBit 63
    · left
      apply UInt64.toNat_inj.1
      rw [hand, hb]
      rfl
    · right
      apply UInt64.toNat_inj.1
      rw [hand, hb]
      rfl
  unfold copySign
  rw [hbits, UInt64.zero_or]
  rcases hsign with h | h <;> rw [h] <;> decide
theorem isNaN_of_beq_zero {z : Float} (hz : (z == 0) = true) : z.isNaN = false := by
  obtain ⟨s, hs⟩ := (beq_zero_iff z).1 hz
  rw [isNaN_eq_unpack, hs]
  rfl

theorem beq_self_of_beq_zero {z : Float} (hz : (z == 0) = true) : (z == z) = true := by
  obtain ⟨s, hs⟩ := (beq_zero_iff z).1 hz
  show z.toModel.unpack.beq z.toModel.unpack = true
  rw [hs]
  rfl

theorem zero_beq_zero : ((0 : Float) == 0) = true := by decide

theorem isFinite_of_beq_zero {z : Float} (hz : (z == 0) = true) : z.isFinite = true := by
  obtain ⟨s, hs⟩ := (beq_zero_iff z).1 hz
  show z.toModel.unpack.isFinite = true
  rw [hs]
  rfl

/-- The square root of a zero is that zero. -/
theorem sqrt_beq_zero {z : Float} (hz : (z == 0) = true) : (z.sqrt == 0) = true := by
  obtain ⟨s, hs⟩ := (beq_zero_iff z).1 hz
  rw [beq_zero_iff]
  show ∃ t, (Float.Model.pack (UnpackedFloat.sqrt _ z.toModel.unpack)).unpack = _
  rw [hs]
  exact ⟨s, unpack_pack_zero s⟩

theorem not_one_le_of_beq_zero {z : Float} (hz : (z == 0) = true) : ¬(1 : Float) ≤ z := by
  obtain ⟨s, hs⟩ := (beq_zero_iff z).1 hz
  rw [le_iff_unpack, unpack_one, hs]
  cases s <;> decide

theorem not_le_neg_one_of_beq_zero {z : Float} (hz : (z == 0) = true) : ¬z ≤ -1 := by
  obtain ⟨s, hs⟩ := (beq_zero_iff z).1 hz
  rw [le_iff_unpack, unpack_neg_eq, unpack_one, hs]
  cases s <;> decide

end SailSim.Binary64
