import Mathlib
import SailSim.Proofs.FloatOrder

/-!
# Which binary64 results are NaN, and which are zero

An operation on binary64 numbers unpacks its arguments, computes an unpacked result and packs it
back.  Rounding a finite value never gives NaN: it gives a zero or a finite value, and packing
turns a finite value too large for the format into an infinity, never into a NaN, since a packed
finite value has an exponent field below all ones.  So NaN only comes from a NaN argument or
from the undefined cases of an operation (`0 · ∞`, `0 / 0`, `∞ / ∞`, `∞ - ∞`):

* `Binary64.isNaN_unpack_pack` : packing keeps whether a value is NaN;
* `Binary64.isNaN_mul_of_finite`, `Binary64.isNaN_div_of_finite` : multiplying or dividing by a
  nonzero finite number gives NaN exactly when the other argument is NaN;
* `Binary64.isNaN_ofNat` : a natural number is never read as NaN.

Zeros carry a sign, and `x == 0` holds of both.  Zeros stay zeros through the operations a
quantity that should stay zero goes through, whatever their signs:

* `Binary64.beq_zero_iff` : `x == 0` exactly when `x` unpacks to a zero of either sign;
* `Binary64.mul_beq_zero`, `Binary64.add_beq_zero`, `Binary64.neg_beq_zero` : a zero times a
  finite number, the sum of two zeros and the negation of a zero are zeros.  A zero times an
  infinity is NaN, so the finite factor is needed.
-/

namespace SailSim

namespace Binary64

open Float.Model Float.Model.UnpackedFloat

/-! ### NaN -/

theorem isNaN_roundWithAccuracy (spec : Format) (s : Sign) (m : Nat) (e : Int) (a : Accuracy) :
    (roundWithAccuracy spec s m e a).isNaN = false := by
  simp only [roundWithAccuracy]
  split <;> rfl

theorem isNaN_round (spec : Format) (s : Sign) (m : Nat) (e : Int) :
    (UnpackedFloat.round spec s m e).isNaN = false := by
  simp only [UnpackedFloat.round]
  exact isNaN_roundWithAccuracy ..

theorem isNaN_normalize (spec : Format) (m e : Int) (z : Sign) :
    (UnpackedFloat.normalize spec m e z).isNaN = false := by
  unfold UnpackedFloat.normalize
  split
  · exact isNaN_round ..
  · rfl
  · exact isNaN_round ..

theorem isNaN_ofScientific (spec : Format) (m : Nat) (e : Int) :
    (UnpackedFloat.ofScientific spec m e).isNaN = false := by
  unfold UnpackedFloat.ofScientific
  split
  · rfl
  split
  · rfl
  split
  · rfl
  split
  · simp [UnpackedFloat.mul, isNaN_roundWithAccuracy]
  · simp [UnpackedFloat.div, isNaN_roundWithAccuracy]

theorem isNaN_mul_finite (spec : Format) (a : UnpackedFloat) (s : Sign) (m : Nat) (e : Int)
    (h : 0 < m) : (UnpackedFloat.mul spec a (.finite s m e h)).isNaN = a.isNaN := by
  cases a with
  | finite => exact isNaN_roundWithAccuracy ..
  | _ => rfl

theorem isNaN_div_finite (spec : Format) (a : UnpackedFloat) (s : Sign) (m : Nat) (e : Int)
    (h : 0 < m) : (UnpackedFloat.div spec a (.finite s m e h)).isNaN = a.isNaN := by
  cases a with
  | finite =>
    simp only [UnpackedFloat.div]
    exact isNaN_roundWithAccuracy ..
  | _ => rfl

/-- A bit pattern whose exponent field is not all ones is not NaN. -/
theorem isNaN_unpack_of_exponent {b : BitVec 64}
    (h : @unpackExponent Format.binary64 b ≠ -1#11) :
    (UnpackedFloat.unpack Format.binary64 b).isNaN = false := by
  unfold UnpackedFloat.unpack
  dsimp only
  rw [if_neg h]
  split
  · split <;> rfl
  · rfl

theorem isNaN_unpack_pack (u : UnpackedFloat) : (Float.Model.pack u).unpack.isNaN = u.isNaN := by
  cases u with
  | notANumber => decide
  | infinity s => cases s <;> decide
  | zero s => cases s <;> decide
  | finite s m e hm =>
    show UnpackedFloat.isNaN (UnpackedFloat.unpack _ (UnpackedFloat.pack _ _)) = false
    simp only [UnpackedFloat.pack]
    split
    · cases s <;> decide
    split
    · -- a normal number: its biased exponent stays below the all-ones field
      apply isNaN_unpack_of_exponent
      rw [unpackExponent_packComponents]
      rename_i hbelow _
      intro hones
      have := congrArg BitVec.toNat hones
      simp at hbelow this
      omega
    · apply isNaN_unpack_of_exponent
      rw [unpackExponent_packComponents]
      decide

theorem isNaN_mul_of_finite {a b : Float} {s : Sign} {m : Nat} {e : Int} {h : 0 < m}
    (hb : b.toModel.unpack = .finite s m e h) : (a * b).isNaN = a.isNaN := by
  calc (a * b).isNaN
      = (UnpackedFloat.mul Format.binary64 a.toModel.unpack b.toModel.unpack).isNaN :=
        isNaN_unpack_pack _
    _ = a.isNaN := by rw [hb, isNaN_mul_finite]; rfl

theorem isNaN_div_of_finite {a b : Float} {s : Sign} {m : Nat} {e : Int} {h : 0 < m}
    (hb : b.toModel.unpack = .finite s m e h) : (a / b).isNaN = a.isNaN := by
  calc (a / b).isNaN
      = (UnpackedFloat.div Format.binary64 a.toModel.unpack b.toModel.unpack).isNaN :=
        isNaN_unpack_pack _
    _ = a.isNaN := by rw [hb, isNaN_div_finite]; rfl

/-- A natural number is read either exactly, as a 64-bit word times one, or through the
decimal model; neither way gives NaN. -/
theorem isNaN_ofNat (n : Nat) : (Float.ofNat n).isNaN = false := by
  simp only [Float.ofNat, OfScientific.ofScientific, Float.ofScientific]
  split
  · simp only [Bool.false_eq_true, if_false]
    obtain ⟨s, m, e, h, hone⟩ : ∃ s m e h,
        Float.exactlyRepresentablePowersOfTen[0].toModel.unpack = .finite s m e h :=
      ⟨_, _, _, _, rfl⟩
    rw [isNaN_mul_of_finite hone, isNaN_eq_unpack]
    show (Float.Model.pack _).unpack.isNaN = false
    rw [isNaN_unpack_pack]
    exact isNaN_normalize ..
  · rw [isNaN_eq_unpack]
    show (Float.Model.pack _).unpack.isNaN = false
    rw [isNaN_unpack_pack]
    exact isNaN_ofScientific ..

/-! ### Zeros -/

theorem unpack_zero : (0 : Float).toModel.unpack = .zero .positive := rfl

theorem unpack_pack_zero (s : Sign) : (Float.Model.pack (.zero s)).unpack = .zero s := by
  cases s <;> rfl

theorem beq_zero_iff (x : Float) : (x == 0) = true ↔ ∃ s, x.toModel.unpack = .zero s := by
  show x.toModel.unpack.beq (0 : Float).toModel.unpack = true ↔ _
  rw [unpack_zero]
  cases x.toModel.unpack with
  | zero s => simp [UnpackedFloat.beq, UnpackedFloat.compare]
  | finite s m e h => cases s <;> simp [UnpackedFloat.beq, UnpackedFloat.compare]
  | infinity s => cases s <;> simp [UnpackedFloat.beq, UnpackedFloat.compare]
  | notANumber => simp [UnpackedFloat.beq, UnpackedFloat.compare]

theorem mul_beq_zero {x y : Float} (hx : (x == 0) = true) (hy : y.isFinite = true) :
    (x * y == 0) = true := by
  obtain ⟨s, hs⟩ := (beq_zero_iff x).1 hx
  have hfin : y.toModel.unpack.isFinite = true := hy
  rw [beq_zero_iff]
  show ∃ t, (Float.Model.pack (UnpackedFloat.mul _ x.toModel.unpack y.toModel.unpack)).unpack = _
  rw [hs]
  -- a zero times a zero or a finite number is a zero
  cases hyu : y.toModel.unpack with
  | zero t => exact ⟨s * t, unpack_pack_zero _⟩
  | finite t m e h => exact ⟨s * t, unpack_pack_zero _⟩
  | infinity t => rw [hyu] at hfin; exact absurd hfin Bool.false_ne_true
  | notANumber => rw [hyu] at hfin; exact absurd hfin Bool.false_ne_true

theorem add_beq_zero {x y : Float} (hx : (x == 0) = true) (hy : (y == 0) = true) :
    (x + y == 0) = true := by
  obtain ⟨s, hs⟩ := (beq_zero_iff x).1 hx
  obtain ⟨t, ht⟩ := (beq_zero_iff y).1 hy
  rw [beq_zero_iff]
  show ∃ u, (Float.Model.pack (UnpackedFloat.add _ x.toModel.unpack y.toModel.unpack)).unpack = _
  rw [hs, ht]
  simp only [UnpackedFloat.add]
  split
  · exact ⟨s, unpack_pack_zero _⟩
  · exact ⟨.positive, unpack_pack_zero _⟩

theorem neg_beq_zero {x : Float} (hx : (x == 0) = true) : (-x == 0) = true := by
  obtain ⟨s, hs⟩ := (beq_zero_iff x).1 hx
  rw [beq_zero_iff]
  show ∃ u, (Float.Model.pack x.toModel.unpack.neg).unpack = _
  rw [hs]
  exact ⟨-s, unpack_pack_zero _⟩

end Binary64

end SailSim
