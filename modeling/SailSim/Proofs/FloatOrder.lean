import Mathlib
/-!
# The order of binary64 numbers

Comparisons of binary64 numbers are read off their unpacked form: NaN is unordered, the
infinities bound everything, zeros of either sign are equal, and finite numbers compare by
sign, then by exponent and mantissa (reversed for negative numbers).  From that:

* `Binary64.lt_trans` : `<` is transitive;
* `Binary64.le_iff_not_lt` : between numbers that are not NaN, `a ≤ b` holds exactly when
  `b < a` does not.

The second fails with a NaN on either side, where both `a ≤ b` and `b < a` are false.
-/

namespace SailSim

namespace Binary64

open Float.Model

theorem lt_iff_unpack {a b : Float} : a < b ↔ a.toModel.unpack.lt b.toModel.unpack = true := by
  show a.lt b = true ↔ _
  simp only [Float.lt, decide_eq_true_eq]
  rfl

theorem le_iff_unpack {a b : Float} : a ≤ b ↔ a.toModel.unpack.le b.toModel.unpack = true := by
  show a.le b = true ↔ _
  simp only [Float.le, decide_eq_true_eq]
  rfl

theorem isNaN_eq_unpack (a : Float) : a.isNaN = a.toModel.unpack.isNaN := rfl

theorem compare_negative_positive :
    compare UnpackedFloat.Sign.negative UnpackedFloat.Sign.positive = .lt := rfl

theorem compare_positive_negative :
    compare UnpackedFloat.Sign.positive UnpackedFloat.Sign.negative = .gt := rfl

-- Finite numbers compare lexicographically on (exponent, mantissa), so each case below is a
-- statement about integers that `omega` decides.
theorem unpacked_lt_trans {a b c : UnpackedFloat} (hab : a.lt b = true) (hbc : b.lt c = true) :
    a.lt c = true := by
  rcases a with ⟨⟨⟩⟩ | _ | ⟨⟨⟩⟩ | ⟨⟨⟩, m₁, e₁, _⟩ <;>
  rcases b with ⟨⟨⟩⟩ | _ | ⟨⟨⟩⟩ | ⟨⟨⟩, m₂, e₂, _⟩ <;>
  rcases c with ⟨⟨⟩⟩ | _ | ⟨⟨⟩⟩ | ⟨⟨⟩, m₃, e₃, _⟩ <;>
  simp_all [UnpackedFloat.lt, UnpackedFloat.compare, Ordering.then_eq_lt, Int.compare_eq_lt,
    Nat.compare_eq_lt, Ordering.swap_eq_lt, Ordering.then_eq_gt, Int.compare_eq_gt,
    Nat.compare_eq_gt, compare_negative_positive] <;>
  omega

theorem unpacked_le_iff_not_lt {a b : UnpackedFloat} (ha : a.isNaN = false)
    (hb : b.isNaN = false) : a.le b = true ↔ ¬ b.lt a = true := by
  rcases a with ⟨⟨⟩⟩ | _ | ⟨⟨⟩⟩ | ⟨⟨⟩, m₁, e₁, _⟩ <;>
  rcases b with ⟨⟨⟩⟩ | _ | ⟨⟨⟩⟩ | ⟨⟨⟩, m₂, e₂, _⟩ <;>
  simp_all [UnpackedFloat.lt, UnpackedFloat.le, UnpackedFloat.compare, UnpackedFloat.isNaN,
    Ordering.isLE_iff_ne_gt, Ordering.isGE_iff_ne_lt, Ordering.then_eq_lt, Int.compare_eq_lt,
    Nat.compare_eq_lt, Ordering.then_eq_gt, Int.compare_eq_gt, Nat.compare_eq_gt,
    compare_negative_positive, compare_positive_negative] <;>
  omega

theorem lt_trans {a b c : Float} (hab : a < b) (hbc : b < c) : a < c :=
  lt_iff_unpack.2 (unpacked_lt_trans (lt_iff_unpack.1 hab) (lt_iff_unpack.1 hbc))

theorem le_iff_not_lt {a b : Float} (ha : a.isNaN = false) (hb : b.isNaN = false) :
    a ≤ b ↔ ¬ b < a := by
  rw [le_iff_unpack, lt_iff_unpack]
  exact unpacked_le_iff_not_lt ha hb

theorem lt_of_not_le {a b : Float} (ha : a.isNaN = false) (hb : b.isNaN = false)
    (h : ¬ a ≤ b) : b < a :=
  Classical.not_not.1 fun hn => h ((le_iff_not_lt ha hb).2 hn)

end Binary64

end SailSim
