import Mathlib
import SailSim.Proofs.FloatClass
import SailSim.Binary64.Remainder

/-!
# Binary64 numbers, unpacked

The arithmetic of `Float` unpacks its arguments into a sign, a mantissa and an exponent,
computes and rounds, and packs the result back into 64 bits.  This module is what the rest of
the binary64 development knows about the two ends of that path:

* `Binary64.unpack_canonical` : a finite nonzero number unpacks to a *canonical* mantissa and
  exponent, at most 53 bits with the top one set unless the exponent is the least, and an
  exponent in `[-1074, 971]`;
* `Binary64.unpack_pack_canonical`, `Binary64.pack_unpack` : packing a canonical number and
  unpacking it gives it back, and packing undoes unpacking on every valid pattern; past the
  largest exponent packing gives an infinity (`unpack_pack_overflow`);
* `Binary64.hasSign_unpack_pack` : packing keeps the sign of every number that has one;
* `Binary64.magnitude_of_unpack` : the integer view the exact operations of the library compute
  on (`Binary64.magnitude`, `Binary64.signBit`) is the unpacked mantissa, exponent and sign;
* `Binary64.unpack_neg_eq` : negation flips the sign of the unpacked number, so it is an
  involution (`float_neg_neg`) that leaves the absolute value alone (`float_abs_neg`);
* `Binary64.eq_finite_of_positiveParts` : the unpacked form of a constant, read off a computation
  the kernel runs.
-/

namespace SailSim.Binary64

open Float.Model Float.Model.UnpackedFloat

/-! ### Canonical form -/

/-- The shape rounding to binary64 gives a nonzero mantissa and its exponent: at most 53 bits,
the top one set unless the exponent is the least, `-1074`.  The number is finite in binary64
when moreover the exponent is at most `971`. -/
def Canonical (m : Nat) (e : Int) : Prop :=
  m < 2 ^ 53 ∧ -1074 ≤ e ∧ (2 ^ 52 ≤ m ∨ e = -1074)

theorem append_implicit (m : BitVec 52) : (1#1 ++ m).toNat = 2 ^ 52 + m.toNat := by
  rw [BitVec.toNat_append, ← Nat.shiftLeft_add_eq_or_of_lt m.isLt]
  simp [Nat.shiftLeft_eq]

theorem unpack_canonical {b : BitVec 64} {s : Sign} {m : Nat} {e : Int} {h : 0 < m}
    (hu : UnpackedFloat.unpack Format.binary64 b = .finite s m e h) : Canonical m e ∧ e ≤ 971 := by
  unfold UnpackedFloat.unpack at hu
  dsimp only at hu
  split at hu
  · split at hu <;> cases hu
  · rename_i hninf
    split at hu
    · rename_i hzero
      split at hu
      · cases hu
      · cases hu
        have hb := (@unpackMantissa Format.binary64 b).isLt
        simp only [hzero, BitVec.toNat_ofNat] at *
        refine ⟨⟨by omega, ?_, Or.inr ?_⟩, ?_⟩ <;>
          norm_num [Format.exponentBias, Format.mantissaBits]
    · rename_i hnzero
      cases hu
      have hb := (@unpackMantissa Format.binary64 b).isLt
      have he := (@unpackExponent Format.binary64 b).isLt
      have he0 : (@unpackExponent Format.binary64 b).toNat ≠ 0 := fun h =>
        hnzero (BitVec.eq_of_toNat_eq h)
      have hemax : (@unpackExponent Format.binary64 b).toNat ≠ 2047 := fun h =>
        hninf (BitVec.eq_of_toNat_eq h)
      rw [append_implicit]
      change (@unpackMantissa Format.binary64 b).toNat < 2 ^ 52 at hb
      change (@unpackExponent Format.binary64 b).toNat < 2 ^ 11 at he
      refine ⟨⟨by omega, ?_, Or.inl (by omega)⟩, ?_⟩ <;>
        norm_num [Format.exponentBias, Format.mantissaBits] <;> omega

/-! ### Packing and unpacking -/

@[simp] theorem unpackSign_packComponents (s : Sign) (e : BitVec 11) (m : BitVec 52) :
    unpackSign (packComponents Format.binary64 s e m) = s.toBitVec := by
  apply BitVec.eq_of_getLsbD_eq
  intro i hi
  have hi0 : i = 0 := by omega
  subst i
  simp only [unpackSign, packComponents, BitVec.getLsbD_cast, BitVec.getLsbD_extractLsb]
  rw [BitVec.getLsbD_append, BitVec.getLsbD_append]
  cases s <;> simp [Sign.toBitVec]

@[simp] theorem ofBitVec_toBitVec (s : Sign) : Sign.ofBitVec s.toBitVec = s := by
  cases s <;> rfl

theorem toBitVec_ofBitVec (b : BitVec 1) : (Sign.ofBitVec b).toBitVec = b := by
  unfold Sign.ofBitVec
  split
  · subst b; rfl
  · rename_i h
    have : b = 1#1 := by
      have := b.isLt
      apply BitVec.eq_of_toNat_eq
      have h0 : b.toNat ≠ 0 := fun h0 => h (BitVec.eq_of_toNat_eq h0)
      simp only [BitVec.toNat_ofNat]
      omega
    subst this; rfl

theorem unpack_pack_canonical (s : Sign) {m : Nat} {e : Int} (hm : 0 < m) (hc : Canonical m e)
    (heu : e ≤ 971) :
    UnpackedFloat.unpack Format.binary64 (UnpackedFloat.pack Format.binary64 (.finite s m e hm)) =
      .finite s m e hm := by
  obtain ⟨hmu, hel, hlo⟩ := hc
  have hlogu : m.log2 < 53 := (Nat.log2_lt hm.ne').mpr hmu
  by_cases hn : 2 ^ 52 ≤ m
  · -- a normal number: the exponent field holds `e + 1075`, the implicit bit is dropped
    have hlog : m.log2 = 52 := by have := (Nat.le_log2 hm.ne').mpr hn; omega
    have hbe : (BitVec.ofNat 11 (e + 1023 + 52).toNat).toNat = (e + 1075).toNat := by
      rw [BitVec.toNat_ofNat, Nat.mod_eq_of_lt (by omega)]; omega
    have hbez : BitVec.ofNat 11 (e + 1023 + 52).toNat ≠ 0#11 := by
      intro hh; have := congrArg BitVec.toNat hh; rw [hbe] at this; simp at this; omega
    have hbei : BitVec.ofNat 11 (e + 1023 + 52).toNat ≠ -1#11 := by
      intro hh; have := congrArg BitVec.toNat hh; rw [hbe] at this; simp at this; omega
    have hmant : (1#1 ++ BitVec.ofNat 52 m).toNat = m := by
      rw [append_implicit, BitVec.toNat_ofNat]; omega
    simp only [UnpackedFloat.pack, Format.exponentBias, Format.binary64, Format.mantissaBits]
    norm_num
    rw [if_neg (by omega), if_pos (by omega)]
    unfold UnpackedFloat.unpack
    simp only [unpackMantissa_packComponents, unpackExponent_packComponents,
      unpackSign_packComponents, ofBitVec_toBitVec, hbei, hbez, if_false, hmant]
    congr 1
    rw [hbe]
    norm_num [Format.exponentBias]
    omega
  · -- a subnormal number: the exponent field is zero and the mantissa is stored as it is
    have he : e = -1074 := hlo.resolve_left hn
    subst he
    have hmc : (BitVec.ofNat 52 m).toNat = m := by rw [BitVec.toNat_ofNat]; omega
    have hmz : BitVec.ofNat 52 m ≠ 0#52 := by
      intro hh; have := congrArg BitVec.toNat hh; rw [hmc] at this; simp at this; omega
    have hzi : (0#11 : BitVec 11) ≠ -1#11 := by decide
    have hlog : m.log2 < 52 := (Nat.log2_lt hm.ne').mpr (by omega)
    simp only [UnpackedFloat.pack, Format.exponentBias, Format.binary64, Format.mantissaBits]
    norm_num
    rw [if_neg (by omega)]
    unfold UnpackedFloat.unpack
    simp only [unpackMantissa_packComponents, unpackExponent_packComponents,
      unpackSign_packComponents, ofBitVec_toBitVec, hzi, if_false, if_true, hmz, hmc]
    congr 1

/-- A finite number whose exponent is past the largest is packed as an infinity. -/
theorem unpack_pack_overflow (s : Sign) {m : Nat} {e : Int} (hm : 0 < m) (he : 972 ≤ e) :
    (Float.Model.pack (.finite s m e hm)).unpack = .infinity s := by
  simp only [Float.Model.unpack, Float.Model.pack, UInt64.toBitVec_ofBitVec, UnpackedFloat.pack]
  rw [if_pos (by simp [Format.exponentBias]; omega)]
  cases s <;> rfl

/-- A bit pattern is its sign, exponent and mantissa fields put back together. -/
theorem packComponents_fields (b : BitVec 64) :
    packComponents Format.binary64 (Sign.ofBitVec (@unpackSign Format.binary64 b))
      (@unpackExponent Format.binary64 b) (@unpackMantissa Format.binary64 b) = b := by
  simp only [packComponents, toBitVec_ofBitVec, unpackSign, unpackExponent, unpackMantissa,
    BitVec.extractLsb]
  ext i hi
  grind

theorem packComponents_fields_of {b : BitVec 64} {e : BitVec 11} {m : BitVec 52}
    (he : @unpackExponent Format.binary64 b = e) (hm : @unpackMantissa Format.binary64 b = m) :
    packComponents Format.binary64 (Sign.ofBitVec (@unpackSign Format.binary64 b)) e m = b := by
  subst he hm
  exact packComponents_fields b

/-- Packing undoes unpacking on every valid pattern: the fields are stored back as they were
read, and validity makes a NaN the one NaN that packing writes. -/
theorem pack_unpack {b : BitVec 64} (hv : Format.binary64.Valid b) :
    UnpackedFloat.pack Format.binary64 (UnpackedFloat.unpack Format.binary64 b) = b := by
  have hm := (@unpackMantissa Format.binary64 b).isLt
  have he := (@unpackExponent Format.binary64 b).isLt
  change (@unpackMantissa Format.binary64 b).toNat < 2 ^ 52 at hm
  change (@unpackExponent Format.binary64 b).toNat < 2 ^ 11 at he
  unfold UnpackedFloat.unpack
  dsimp only
  split
  · rename_i hones
    split
    · exact packComponents_fields_of hones ‹_›
    · exact (hv.eq_packedNaN hones ‹_›).symm
  · rename_i hnones
    have hne : (@unpackExponent Format.binary64 b).toNat ≠ 2047 := fun h =>
      hnones (BitVec.eq_of_toNat_eq h)
    split
    · rename_i hzero
      split
      · exact packComponents_fields_of hzero ‹_›
      · -- a subnormal number is stored with a zero exponent field and its mantissa as it is
        rename_i hmz
        have hmpos : 0 < (@unpackMantissa Format.binary64 b).toNat := by
          rcases Nat.eq_zero_or_pos (@unpackMantissa Format.binary64 b).toNat with h | h
          · exact absurd (BitVec.eq_of_toNat_eq h) hmz
          · exact h
        have hlog : (@unpackMantissa Format.binary64 b).toNat.log2 < 52 :=
          (Nat.log2_lt hmpos.ne').mpr hm
        have hz : (@unpackExponent Format.binary64 b).toNat = 0 := by rw [hzero]; rfl
        simp only [UnpackedFloat.pack, Format.exponentBias, Format.binary64, Format.mantissaBits,
          hz]
        norm_num
        rw [if_neg (by omega)]
        exact packComponents_fields_of hzero (by simp)
    · -- a normal number: the implicit bit is dropped again and the exponent field kept
      rename_i hnzero
      have hnz : (@unpackExponent Format.binary64 b).toNat ≠ 0 := fun h =>
        hnzero (BitVec.eq_of_toNat_eq h)
      have hmant := append_implicit (@unpackMantissa Format.binary64 b)
      have hlog : (1#1 ++ @unpackMantissa Format.binary64 b).toNat.log2 = 52 := by
        rw [hmant, Nat.log2_eq_iff (by omega)]
        omega
      simp only [UnpackedFloat.pack, Format.exponentBias, Format.binary64, Format.mantissaBits,
        hlog]
      norm_num
      rw [if_neg (by omega)]
      refine packComponents_fields_of ?_ ?_
      · apply BitVec.eq_of_toNat_eq
        simp only [BitVec.toNat_ofNat]
        omega
      · have hdrop : BitVec.ofNat 52 (1 <<< 52) = 0#52 := by decide
        rw [hdrop, BitVec.zero_or]

theorem model_pack_unpack (x : Float.Model) : Float.Model.pack x.unpack = x := by
  obtain ⟨bits, hv⟩ := x
  simp only [Float.Model.pack, Float.Model.unpack, pack_unpack hv, UInt64.ofBitVec_toBitVec]

theorem unpack_neg (x : Float) : (-x).toModel.unpack = (Float.Model.pack x.toModel.unpack.neg).unpack :=
  rfl

/-! ### Signs -/

/-- `u` is a zero, a finite number or an infinity of sign `s`; a NaN has no sign. -/
def HasSign (s : Sign) : UnpackedFloat → Prop
  | .infinity t => t = s
  | .zero t => t = s
  | .finite t _ _ _ => t = s
  | .notANumber => False

/-- Every number with a sign is packed as that sign followed by some exponent and mantissa. -/
theorem pack_eq_packComponents {s : Sign} {u : UnpackedFloat} (h : HasSign s u) :
    ∃ E M, UnpackedFloat.pack Format.binary64 u = packComponents Format.binary64 s E M := by
  cases u with
  | notANumber => exact h.elim
  | infinity t => exact ⟨_, _, by rw [← show t = s from h]; rfl⟩
  | zero t => exact ⟨_, _, by rw [← show t = s from h]; rfl⟩
  | finite t m e hm =>
    obtain rfl : t = s := h
    simp only [UnpackedFloat.pack]
    split
    · exact ⟨_, _, rfl⟩
    split <;> exact ⟨_, _, rfl⟩

theorem hasSign_unpack_packComponents {s : Sign} {E : BitVec 11} {M : BitVec 52}
    (h : (UnpackedFloat.unpack Format.binary64 (packComponents Format.binary64 s E M)).isNaN = false) :
    HasSign s (UnpackedFloat.unpack Format.binary64 (packComponents Format.binary64 s E M)) := by
  revert h
  unfold UnpackedFloat.unpack
  simp only [unpackSign_packComponents, ofBitVec_toBitVec]
  split
  · split <;> simp [HasSign, UnpackedFloat.isNaN]
  · split
    · split <;> simp [HasSign]
    · simp [HasSign]

/-- Packing keeps the sign of a number that has one. -/
theorem hasSign_unpack_pack {s : Sign} {u : UnpackedFloat} (h : HasSign s u) :
    HasSign s (Float.Model.pack u).unpack := by
  have hnan : (Float.Model.pack u).unpack.isNaN = false := by
    rw [isNaN_unpack_pack]
    cases u <;> first | rfl | exact h.elim
  obtain ⟨E, M, hp⟩ := pack_eq_packComponents h
  have hu : (Float.Model.pack u).unpack =
      UnpackedFloat.unpack Format.binary64 (packComponents Format.binary64 s E M) := by
    simp only [Float.Model.unpack, Float.Model.pack, UInt64.toBitVec_ofBitVec, hp]
  rw [hu] at hnan ⊢
  exact hasSign_unpack_packComponents hnan

/-! ### The integer view of the bits -/

theorem exponentField_eq (x : Float) :
    exponentField x = (@unpackExponent Format.binary64 x.toModel.toBits.toBitVec).toNat := by
  simp only [exponentField, unpackExponent, BitVec.toNat_cast, BitVec.extractLsb_toNat]
  show ((x.toModel.toBits >>> 52) &&& 2047).toNat = _
  simp only [UInt64.toNat_and, UInt64.toNat_shiftRight]
  rw [show (2047 : UInt64).toNat = 2 ^ 11 - 1 from rfl, Nat.and_two_pow_sub_one_eq_mod]
  rfl

theorem fraction_eq (x : Float) :
    (x.toBits &&& 0xFFFFFFFFFFFFF).toNat = (@unpackMantissa Format.binary64 x.toModel.toBits.toBitVec).toNat := by
  simp only [unpackMantissa, BitVec.toNat_cast, BitVec.extractLsb_toNat]
  show (x.toModel.toBits &&& 0xFFFFFFFFFFFFF).toNat = _
  simp only [UInt64.toNat_and]
  rw [show (0xFFFFFFFFFFFFF : UInt64).toNat = 2 ^ 52 - 1 from rfl, Nat.and_two_pow_sub_one_eq_mod]
  simp

/-- The sign bit read as a sign. -/
theorem sign_of_signBit (x : Float) :
    (if signBit x then Sign.negative else .positive) =
      Sign.ofBitVec (@unpackSign Format.binary64 x.toModel.toBits.toBitVec) := by
  have hlt := x.toModel.toBits.toNat_lt
  have htop : (x.toBits >>> 63).toNat = x.toModel.toBits.toNat / 2 ^ 63 := by
    show (x.toModel.toBits >>> 63).toNat = _
    simp [UInt64.toNat_shiftRight, Nat.shiftRight_eq_div_pow]
  have hsign : (@unpackSign Format.binary64 x.toModel.toBits.toBitVec).toNat =
      x.toModel.toBits.toNat / 2 ^ 63 := by
    simp only [unpackSign, BitVec.toNat_cast, BitVec.extractLsb_toNat, Nat.shiftRight_eq_div_pow]
    simp only [UInt64.toNat_toBitVec]
    omega
  unfold signBit Sign.ofBitVec
  by_cases h1 : x.toModel.toBits.toNat / 2 ^ 63 = 1
  · have hb : (x.toBits >>> 63 == 1) = true := by
      rw [beq_iff_eq]; apply UInt64.toNat_inj.mp; rw [htop, h1]; rfl
    have hs : @unpackSign Format.binary64 x.toModel.toBits.toBitVec ≠ 0#1 := by
      intro h; have := congrArg BitVec.toNat h; rw [hsign, h1] at this; simp at this
    simp [hb, hs]
  · have hb : (x.toBits >>> 63 == 1) = false := by
      rw [beq_eq_false_iff_ne]; intro h; have := congrArg UInt64.toNat h; rw [htop] at this
      exact h1 this
    have hs : @unpackSign Format.binary64 x.toModel.toBits.toBitVec = 0#1 := by
      apply BitVec.eq_of_toNat_eq; rw [hsign]; simp; omega
    simp [hb, hs]

theorem or_implicit (f : Nat) (hf : f < 2 ^ 52) : f ||| 2 ^ 52 = 2 ^ 52 + f := by
  rw [Nat.or_comm, show (2 : Nat) ^ 52 = 1 <<< 52 by decide]
  exact (Nat.shiftLeft_add_eq_or_of_lt hf 1).symm

/-- The integer view of a finite nonzero number is its unpacked mantissa and exponent, and
its sign bit is its sign. -/
theorem magnitude_of_unpack {x : Float} {s : Sign} {m : Nat} {e : Int} {h : 0 < m}
    (hu : x.toModel.unpack = .finite s m e h) :
    magnitude x = (m, e) ∧ (if signBit x then Sign.negative else .positive) = s := by
  rw [sign_of_signBit]
  have hf := fraction_eq x
  have hfl : (x.toBits &&& 0xFFFFFFFFFFFFF).toNat < 2 ^ 52 := by
    rw [hf]; exact (@unpackMantissa Format.binary64 x.toModel.toBits.toBitVec).isLt
  unfold Float.Model.unpack UnpackedFloat.unpack at hu
  dsimp only at hu
  split at hu
  · split at hu <;> cases hu
  · rename_i hninf
    split at hu
    · rename_i hzero
      split at hu
      · cases hu
      · cases hu
        have he0 : exponentField x = 0 := by rw [exponentField_eq, hzero]; rfl
        refine ⟨?_, rfl⟩
        simp only [magnitude, he0, if_true, hf, Prod.mk.injEq, true_and, hzero]
        norm_num [Format.exponentBias]
    · rename_i hnzero
      cases hu
      have he0 : exponentField x ≠ 0 := by
        rw [exponentField_eq]; exact fun h0 => hnzero (BitVec.eq_of_toNat_eq h0)
      refine ⟨?_, rfl⟩
      simp only [magnitude, he0, if_false, Prod.mk.injEq]
      constructor
      · rw [append_implicit, UInt64.toNat_or, ← hf]
        exact or_implicit _ hfl
      · rw [exponentField_eq]
        norm_num [Format.exponentBias]

theorem magnitude_of_unpack_zero {x : Float} {s : Sign} (hu : x.toModel.unpack = .zero s) :
    magnitude x = (0, -1074) ∧ (if signBit x then Sign.negative else .positive) = s := by
  rw [sign_of_signBit]
  have hf := fraction_eq x
  unfold Float.Model.unpack UnpackedFloat.unpack at hu
  dsimp only at hu
  split at hu
  · split at hu <;> cases hu
  · split at hu
    · rename_i hzero
      split at hu
      · rename_i hmz
        cases hu
        have he0 : exponentField x = 0 := by rw [exponentField_eq, hzero]; rfl
        refine ⟨?_, rfl⟩
        simp only [magnitude, he0, if_true, hf, hmz, Prod.mk.injEq, and_true]
        rfl
      · cases hu
    · cases hu

/-! ### Negation -/

theorem unpack_pack_neg (x : Float) :
    (Float.Model.pack x.toModel.unpack.neg).unpack = x.toModel.unpack.neg := by
  cases hu : x.toModel.unpack with
  | zero s => exact unpack_pack_zero (-s)
  | finite s m e hm =>
    obtain ⟨hc, he⟩ := unpack_canonical hu
    exact unpack_pack_canonical (-s) hm hc he
  | infinity s => cases s <;> rfl
  | notANumber => rfl

theorem unpack_neg_eq (x : Float) : (-x).toModel.unpack = x.toModel.unpack.neg := by
  rw [unpack_neg, unpack_pack_neg]

theorem neg_neg_unpacked (u : UnpackedFloat) : u.neg.neg = u := by
  cases u with
  | finite s m e hm => cases s <;> rfl
  | zero s => cases s <;> rfl
  | infinity s => cases s <;> rfl
  | notANumber => rfl

theorem float_neg_neg (x : Float) : -(-x) = x := by
  show Float.ofModel (Float.Model.pack (-x).toModel.unpack.neg) = x
  rw [unpack_neg_eq, neg_neg_unpacked, model_pack_unpack]

theorem abs_neg_unpacked (u : UnpackedFloat) : u.neg.abs = u.abs := by
  cases u <;> rfl

theorem float_abs_neg (x : Float) : Float.abs (-x) = Float.abs x := by
  show Float.ofModel (Float.Model.pack (-x).toModel.unpack.abs) =
    Float.ofModel (Float.Model.pack x.toModel.unpack.abs)
  rw [unpack_neg_eq, abs_neg_unpacked]

/-! ### Equality and finiteness through the unpacked form -/

theorem float_eq_of_unpack_eq {x y : Float} (h : x.toModel.unpack = y.toModel.unpack) : x = y := by
  cases x with
  | ofModel a =>
    cases y with
    | ofModel b =>
      congr 1
      rw [← model_pack_unpack a, ← model_pack_unpack b]
      exact congrArg Float.Model.pack h

theorem isNaN_of_isFinite {x : Float} (hx : x.isFinite = true) : x.isNaN = false := by
  have hxu : x.toModel.unpack.isFinite = true := hx
  show x.toModel.unpack.isNaN = false
  revert hxu
  cases x.toModel.unpack <;> simp [UnpackedFloat.isFinite, UnpackedFloat.isNaN]

theorem unpack_neg_zero : (-0 : Float).toModel.unpack = .zero .negative := by
  rw [unpack_neg_eq, unpack_zero]
  rfl

theorem unpack_pack_infinity (s : Sign) : (Float.Model.pack (.infinity s)).unpack = .infinity s := by
  cases s <;> rfl

theorem isFinite_unpack_of_exponent {b : BitVec 64}
    (h : @unpackExponent Format.binary64 b ≠ -1#11) :
    (UnpackedFloat.unpack Format.binary64 b).isFinite = true := by
  unfold UnpackedFloat.unpack
  dsimp only
  rw [if_neg h]
  split
  · split <;> rfl
  · rfl

/-- A finite number at an exponent in range packs to a finite number, canonical or not. -/
theorem isFinite_unpack_pack_of_le (s : Sign) {m : Nat} {e : Int} (hm : 0 < m) (he : e ≤ 971) :
    (Float.Model.pack (.finite s m e hm)).unpack.isFinite = true := by
  show UnpackedFloat.isFinite (UnpackedFloat.unpack _ (UnpackedFloat.pack _ _)) = true
  simp only [UnpackedFloat.pack]
  rw [if_neg (by simp [Format.exponentBias]; omega)]
  split
  · apply isFinite_unpack_of_exponent
    rw [unpackExponent_packComponents]
    intro hones
    have := congrArg BitVec.toNat hones
    simp [Format.exponentBias] at this
    omega
  · apply isFinite_unpack_of_exponent
    rw [unpackExponent_packComponents]
    decide

/-! ### Constants -/

/-- The mantissa and exponent of a positive finite unpacked number. -/
def positiveParts : UnpackedFloat → Option (Nat × Int)
  | .finite .positive m e _ => some (m, e)
  | _ => none

theorem eq_finite_of_positiveParts {u : UnpackedFloat} {m : Nat} {e : Int} (hm : 0 < m)
    (h : positiveParts u = some (m, e)) : u = .finite .positive m e hm := by
  match u, h with
  | .finite .positive _ _ _, rfl => rfl

end SailSim.Binary64
