import Mathlib
import SailSim.Proofs.Binary64.Zeros
import SailSim.Geometry.Attitude

/-!
# Turning about the vertical, in binary64

A level attitude has the heading row `(p, q, 0)`, the second row its quarter turn `(-q, p, 0)`,
and the vertical row `(0, 0, c)`.  A body rate about the vertical alone, `(0, 0, γ)`, turns the
first two rows to `(p + qγ, q - pγ, 0)` and its quarter turn; `normalize` finds them already
orthogonal (their dot product is `-(pq) + pq`, a zero), scales both by one factor (their
lengths are the same number, `√(p² + q² + 0)`), and rebuilds the vertical row as their cross
product, `(0, 0, p² + q²)` scaled by the inverse of its length.  In binary64 every one of these
equalities holds up to the sign of a zero (`Binary64.EqUpToZeroSign`), as long as nothing
overflows:

* `Dcm.QuarterTurn.rotate` : a rate about the vertical keeps the first two rows a quarter turn;
* `Dcm.QuarterTurn.normalize` : so does `normalize`, when it gives finite rows, and the vertical
  row it builds is two zeros and a third entry of positive sign;
* **`Dcm.Level.rotate_normalize`** : a level attitude turned by a rate about the vertical and
  normalized is level, whenever the result is finite;
* `Dcm.Level.roll_beq_zero`, `Dcm.Level.pitch_beq_zero` : a level attitude reads as no roll
  and no pitch.

The vertical entry is of positive sign but may be `+0`: when `p² + q²` is finite but its
square is not, the length of the cross product is `+∞` and the vertical row is scaled to
`(0, 0, 0)`.
-/

namespace SailSim

open Binary64

namespace Vec3

/-- Every component finite. -/
def isFinite (v : Vec3 Float) : Bool := v.x.isFinite && v.y.isFinite && v.z.isFinite

end Vec3

namespace Dcm

/-- Every entry finite. -/
def isFinite (m : Dcm Float) : Bool := m.a.isFinite && m.b.isFinite && m.c.isFinite

/-- Rows `(p, q, 0)` and `(-q, p, 0)`, up to the sign of a zero: the first two rows of a turn
about the vertical, both scaled by the length of `(p, q)`. -/
structure QuarterTurn (a b : Vec3 Float) (p q : Float) : Prop where
  a_x : EqUpToZeroSign a.x p
  a_y : EqUpToZeroSign a.y q
  a_z : (a.z == 0) = true
  b_x : EqUpToZeroSign b.x (-q)
  b_y : EqUpToZeroSign b.y p
  b_z : (b.z == 0) = true

/-- Level in binary64: the first two rows a quarter turn of the heading `(a.x, a.y)`, and the
vertical row two zeros and an entry of positive sign (`+0`, positive or `+∞`). -/
structure Level (m : Dcm Float) : Prop where
  rows : QuarterTurn m.a m.b m.a.x m.a.y
  c_x : (m.c.x == 0) = true
  c_y : (m.c.y == 0) = true
  c_z : Unsigned m.c.z

namespace QuarterTurn

variable {a b : Vec3 Float} {p q : Float}

theorem congr (h : QuarterTurn a b p q) {p' q' : Float} (hp : EqUpToZeroSign p p')
    (hq : EqUpToZeroSign q q') : QuarterTurn a b p' q' :=
  ⟨h.a_x.trans hp, h.a_y.trans hq, h.a_z, h.b_x.trans hq.neg, h.b_y.trans hp, h.b_z⟩

/-- A zero times a finite number, on either side, is a zero. -/
theorem mul_zero_beq {x z : Float} (hx : x.isFinite = true) (hz : (z == 0) = true) :
    (x * z == 0) = true := by
  rw [float_mul_comm]
  exact mul_beq_zero hz hx

theorem sub_beq_zero {x y : Float} (hx : (x == 0) = true) (hy : (y == 0) = true) :
    (x - y == 0) = true := by
  rw [float_sub_eq_add_neg]
  exact add_beq_zero hx (neg_beq_zero hy)

/-- **A rate about the vertical keeps the first two rows a quarter turn.**  The rows
`(p, q, 0)` and `(-q, p, 0)` turned by `(0, 0, γ)` are `(p + qγ, q - pγ, 0)` and its quarter
turn. -/
theorem rotate (h : QuarterTurn a b p q) {g : Vec3 Float} (hgx : (g.x == 0) = true)
    (hgy : (g.y == 0) = true) (ha : a.isFinite = true) (hb : b.isFinite = true) :
    QuarterTurn (a + rowDelta a g) (b + rowDelta b g) (p + q * g.z) (q - p * g.z) := by
  simp only [Vec3.isFinite, Bool.and_eq_true] at ha hb
  have hgy' := isFinite_of_beq_zero hgy
  have hgx' := isFinite_of_beq_zero hgx
  refine ⟨?_, ?_, ?_, ?_, ?_, ?_⟩
  · -- `a.x + (a.y γ - 0)`
    exact h.a_x.add ((sub_zero_eqUpToZeroSign _ (mul_beq_zero h.a_z hgy')).trans
      (h.a_y.mul (.refl _)))
  · -- `a.y + (0 - a.x γ)`
    rw [float_sub_eq_add_neg q]
    exact h.a_y.add ((zero_sub_eqUpToZeroSign (mul_beq_zero h.a_z hgx') _).trans
      (h.a_x.mul (.refl _)).neg)
  · exact add_beq_zero h.a_z (sub_beq_zero (mul_zero_beq ha.1.1 hgy) (mul_zero_beq ha.1.2 hgx))
  · -- `b.x + (b.y γ - 0)` is `-q + pγ`, which is `-(q - pγ)` up to the sign of a zero
    have hpq : EqUpToZeroSign (-q + p * g.z) (-(q - p * g.z)) := by
      rw [float_sub_eq_add_neg q]
      refine .symm ((neg_add_eqUpToZeroSign _ _).trans ?_)
      rw [float_neg_neg]
    exact (h.b_x.add ((sub_zero_eqUpToZeroSign _ (mul_beq_zero h.b_z hgy')).trans
      (h.b_y.mul (.refl _)))).trans hpq
  · -- `b.y + (0 - b.x γ)` is `p + -(-q γ)`, which is `p + q γ`
    have hq : EqUpToZeroSign (-(b.x * g.z)) (q * g.z) := by
      have h' := (h.b_x.mul (.refl g.z)).neg
      rwa [float_neg_mul, float_neg_neg] at h'
    exact h.b_y.add ((zero_sub_eqUpToZeroSign (mul_beq_zero h.b_z hgx') _).trans hq)
  · exact add_beq_zero h.b_z (sub_beq_zero (mul_zero_beq hb.1.1 hgy) (mul_zero_beq hb.1.2 hgx))

/-- The two rows are orthogonal: their dot product is `-(pq) + pq`, a zero when finite. -/
theorem dot_beq_zero (h : QuarterTurn a b p q) (he : (a.dot b).isFinite = true) :
    (a.dot b == 0) = true := by
  unfold Vec3.dot at he ⊢
  have hsum := (isFinite_of_add_isFinite he).1
  have hxx : EqUpToZeroSign (a.x * b.x) (-(p * q)) := by
    have hx := h.a_x.mul h.b_x
    rwa [float_mul_neg] at hx
  have hyy : EqUpToZeroSign (a.y * b.y) (p * q) := by
    have hy := h.a_y.mul h.b_y
    rwa [float_mul_comm q p] at hy
  have hpq : (p * q).isFinite = true := by
    rw [← isFinite_neg, ← hxx.isFinite_eq]
    exact (isFinite_of_add_isFinite hsum).1
  have hxy : (a.x * b.x + a.y * b.y == 0) = true :=
    (hxx.add hyy).symm.beq_zero (neg_add_cancel_of_isFinite hpq)
  exact add_beq_zero hxy (mul_beq_zero h.a_z (isFinite_of_beq_zero h.b_z))

/-- Taking a zero multiple of each row from the other leaves a quarter turn. -/
theorem sub_scale (h : QuarterTurn a b p q) {z : Float} (hz : (z == 0) = true)
    (ha : a.isFinite = true) (hb : b.isFinite = true) :
    QuarterTurn (a - b.scale z) (b - a.scale z) p q := by
  simp only [Vec3.isFinite, Bool.and_eq_true] at ha hb
  exact ⟨(sub_zero_eqUpToZeroSign _ (mul_zero_beq hb.1.1 hz)).trans h.a_x,
    (sub_zero_eqUpToZeroSign _ (mul_zero_beq hb.1.2 hz)).trans h.a_y,
    sub_beq_zero h.a_z (mul_beq_zero h.b_z (isFinite_of_beq_zero hz)),
    (sub_zero_eqUpToZeroSign _ (mul_zero_beq ha.1.1 hz)).trans h.b_x,
    (sub_zero_eqUpToZeroSign _ (mul_zero_beq ha.1.2 hz)).trans h.b_y,
    sub_beq_zero h.b_z (mul_beq_zero h.a_z (isFinite_of_beq_zero hz))⟩

/-- Both rows have the length `√(p² + q² + 0)`: squaring forgets the signs of zeros, and
`(-q)² = q²` exactly. -/
theorem length_eq (h : QuarterTurn a b p q) : b.length = a.length := by
  have hzero : ∀ z : Float, (z == 0) = true → z * z = 0 * 0 := fun z hz =>
    (EqUpToZeroSign.of_beq_zero hz (by decide)).mul_self
  have hbx : b.x * b.x = q * q := by
    rw [h.b_x.mul_self, float_neg_mul, float_mul_neg, float_neg_neg]
  unfold Vec3.length
  rw [h.a_x.mul_self, h.a_y.mul_self, hzero _ h.a_z, h.b_y.mul_self, hbx, hzero _ h.b_z,
    float_add_comm (q * q)]

theorem scale (h : QuarterTurn a b p q) {k : Float} (hk : k.isFinite = true) :
    QuarterTurn (a.scale k) (b.scale k) (p * k) (q * k) := by
  have hbx : EqUpToZeroSign (b.x * k) (-(q * k)) := by
    have hx := h.b_x.mul (.refl k)
    rwa [float_neg_mul] at hx
  exact ⟨h.a_x.mul (.refl k), h.a_y.mul (.refl k), mul_beq_zero h.a_z hk, hbx,
    h.b_y.mul (.refl k), mul_beq_zero h.b_z hk⟩

/-- The cross product of the two rows is vertical: `(0, 0, p² + q²)`. -/
theorem cross (h : QuarterTurn a b p q) (ha : a.isFinite = true) (hb : b.isFinite = true) :
    ((a.cross b).x == 0) = true ∧ ((a.cross b).y == 0) = true ∧
      EqUpToZeroSign (a.cross b).z (p * p + q * q) := by
  simp only [Vec3.isFinite, Bool.and_eq_true] at ha hb
  refine ⟨sub_beq_zero (mul_zero_beq ha.1.2 h.b_z) (mul_beq_zero h.a_z hb.1.2),
    sub_beq_zero (mul_beq_zero h.a_z hb.1.1) (mul_zero_beq ha.1.1 h.b_z), ?_⟩
  -- `p p - q (-q)` is `p p + q q`
  have hz := (h.a_x.mul h.b_y).sub (h.a_y.mul h.b_x)
  rwa [float_mul_neg, float_sub_eq_add_neg (p * p), float_neg_neg] at hz

end QuarterTurn

/-- `(0, 0, s)` up to zero signs, with `s` of positive sign, scaled by the inverse of its length
gives two zeros and an entry of positive sign, when it is finite.  Were `s` a zero, the length
would be a zero and its inverse infinite. -/
theorem vertical {v : Vec3 Float} (hx : (v.x == 0) = true) (hy : (v.y == 0) = true) {s : Float}
    (hz : EqUpToZeroSign v.z s) (hs : Unsigned s) (hfin : (v.scale (1 / v.length)).isFinite = true) :
    ((v.scale (1 / v.length)).x == 0) = true ∧ ((v.scale (1 / v.length)).y == 0) = true ∧
      Unsigned (v.scale (1 / v.length)).z := by
  simp only [Vec3.isFinite, Vec3.scale, Bool.and_eq_true] at hfin
  have hk : (1 / v.length).isFinite = true := (isFinite_of_mul_isFinite hfin.1.1).2
  refine ⟨mul_beq_zero hx hk, mul_beq_zero hy hk, ?_⟩
  cases hs0 : (s == 0)
  · have hvz : v.z = s := hz.eq_of_beq_zero_eq_false hs0
    have hsq : Unsigned (v.x * v.x + v.y * v.y + v.z * v.z) :=
      ((unsigned_mul_self (isNaN_of_beq_zero hx)).add
        (unsigned_mul_self (isNaN_of_beq_zero hy))).add
        (unsigned_mul_self (hvz ▸ hs.isNaN_eq_false))
    exact (hvz ▸ hs).mul hsq.sqrt.one_div (isNaN_of_isFinite hfin.2)
  · -- a zero third entry makes every square, their sum and its root zeros
    have hvz : (v.z == 0) = true := hz.symm.beq_zero hs0
    have hsq : (v.x * v.x + v.y * v.y + v.z * v.z == 0) = true :=
      add_beq_zero (add_beq_zero (mul_beq_zero hx (isFinite_of_beq_zero hx))
        (mul_beq_zero hy (isFinite_of_beq_zero hy))) (mul_beq_zero hvz (isFinite_of_beq_zero hvz))
    have hlen : (v.length == 0) = true := sqrt_beq_zero hsq
    rw [beq_zero_eq_false_of_one_div hk] at hlen
    cases hlen

/-- The attitude `normalize` builds from a quarter turn `t0`, `t1`: both rows scaled by the
inverse of their common length, and their cross product by the inverse of its own. -/
theorem level_of_rows {t0 t1 : Vec3 Float} {p q : Float} (h : QuarterTurn t0 t1 p q)
    (hfin : (Dcm.mk (t0.scale (1 / t0.length)) (t1.scale (1 / t1.length))
      ((t0.cross t1).scale (1 / (t0.cross t1).length))).isFinite = true) :
    Level ⟨t0.scale (1 / t0.length), t1.scale (1 / t1.length),
      (t0.cross t1).scale (1 / (t0.cross t1).length)⟩ := by
  simp only [Dcm.isFinite, Bool.and_eq_true] at hfin
  obtain ⟨⟨ha, hb⟩, hc⟩ := hfin
  simp only [Vec3.isFinite, Vec3.scale, Bool.and_eq_true] at ha hb
  -- the scaled rows are finite, so are the rows and the common factor
  have hk : (1 / t0.length).isFinite = true := (isFinite_of_mul_isFinite ha.1.1).2
  have ht0 : t0.isFinite = true := by
    simp [Vec3.isFinite, (isFinite_of_mul_isFinite ha.1.1).1, (isFinite_of_mul_isFinite ha.1.2).1,
      isFinite_of_beq_zero h.a_z]
  have ht1 : t1.isFinite = true := by
    simp [Vec3.isFinite, (isFinite_of_mul_isFinite hb.1.1).1, (isFinite_of_mul_isFinite hb.1.2).1,
      isFinite_of_beq_zero h.b_z]
  have hp : p.isFinite = true := by
    rw [← h.a_x.isFinite_eq]
    exact (isFinite_of_mul_isFinite ha.1.1).1
  have hq : q.isFinite = true := by
    rw [← h.a_y.isFinite_eq]
    exact (isFinite_of_mul_isFinite ha.1.2).1
  -- the third row is the cross product `(0, 0, p² + q²)`, scaled
  obtain ⟨hcx, hcy, hcz⟩ := h.cross ht0 ht1
  have hS : Unsigned (p * p + q * q) :=
    (unsigned_mul_self (isNaN_of_isFinite hp)).add (unsigned_mul_self (isNaN_of_isFinite hq))
  obtain ⟨hx, hy, hz⟩ := vertical hcx hcy hcz hS hc
  -- the first two rows are scaled by the same factor
  rw [h.length_eq]
  exact ⟨(h.scale hk).congr (h.a_x.mul (.refl _)).symm (h.a_y.mul (.refl _)).symm, hx, hy, hz⟩

theorem level_identity : (identity : Dcm Float).Level where
  rows := ⟨.refl _, .refl _, by decide, .of_beq_zero (by decide) (by decide), .refl _, by decide⟩
  c_x := by decide
  c_y := by decide
  c_z := by
    show HasSign .positive (1 : Float).toModel.unpack
    rw [unpack_one]
    rfl

/-- A finite entry `(u - v z) k` of a normalized row has finite `u`, `v` and `z`. -/
theorem isFinite_of_sub_mul_mul {u v z k : Float} (h : ((u - v * z) * k).isFinite = true) :
    u.isFinite = true ∧ v.isFinite = true ∧ z.isFinite = true := by
  obtain ⟨h₁, -⟩ := isFinite_of_mul_isFinite h
  obtain ⟨hu, h₂⟩ := isFinite_of_sub_isFinite h₁
  exact ⟨hu, isFinite_of_mul_isFinite h₂⟩

/-- **`normalize` keeps a quarter turn**, when it gives finite rows: the rows are already
orthogonal, so the error it shares between them is a zero, and the vertical row it builds is
two zeros and an entry of positive sign. -/
theorem QuarterTurn.normalize {m : Dcm Float} {p q : Float} (h : QuarterTurn m.a m.b p q)
    (hfin : m.normalize.isFinite = true) : m.normalize.Level := by
  have hrows := hfin
  simp only [Dcm.normalize, Dcm.isFinite, Vec3.isFinite, Vec3.scale, Vec3.sub_def,
    Bool.and_eq_true] at hrows
  -- the entries of the first two rows before scaling are finite, and so is their dot product
  obtain ⟨hax, hbx, hhalf⟩ := isFinite_of_sub_mul_mul hrows.1.1.1.1
  obtain ⟨hay, hby, -⟩ := isFinite_of_sub_mul_mul hrows.1.1.1.2
  have he : (m.a.dot m.b).isFinite = true := (isFinite_of_mul_isFinite hhalf).2
  have ha : m.a.isFinite = true := by simp [Vec3.isFinite, hax, hay, isFinite_of_beq_zero h.a_z]
  have hb : m.b.isFinite = true := by simp [Vec3.isFinite, hbx, hby, isFinite_of_beq_zero h.b_z]
  have hzero : ((0.5 : Float) * m.a.dot m.b == 0) = true :=
    QuarterTurn.mul_zero_beq (by decide) (h.dot_beq_zero he)
  exact level_of_rows (h.sub_scale hzero ha hb) hfin

/-- **A level attitude turned by a rate about the vertical and normalized is level**, whenever
the result is finite. -/
theorem Level.rotate_normalize {m : Dcm Float} (h : m.Level) (hm : m.isFinite = true)
    {g : Vec3 Float} (hgx : (g.x == 0) = true) (hgy : (g.y == 0) = true)
    (hfin : ((m.rotate g).normalize).isFinite = true) : ((m.rotate g).normalize).Level := by
  simp only [Dcm.isFinite, Bool.and_eq_true] at hm
  exact (h.rows.rotate hgx hgy hm.1.1 hm.1.2).normalize hfin

/-- A level attitude reads as no roll: `atan2` of a zero over `+0` or a positive number is a
zero. -/
theorem Level.roll_beq_zero {m : Dcm Float} (h : m.Level) : (m.toEuler.roll == 0) = true := by
  show (Elementary.atan2 m.c.y m.c.z == 0) = true
  unfold Elementary.atan2
  simp only [isNaN_of_beq_zero h.c_y, h.c_z.isNaN_eq_false, h.c_y, h.c_z.signBit_eq_false,
    h.c_z.zero_le, Bool.or_false, Bool.false_eq_true, if_false, if_true, decide_true,
    Bool.not_false, Bool.and_self]
  exact copySign_zero_beq_zero _

/-- A level attitude reads as no pitch: the bounded inverse sine of a zero is that zero. -/
theorem Level.pitch_beq_zero {m : Dcm Float} (h : m.Level) : (m.toEuler.pitch == 0) = true := by
  show (-boundedAsin m.c.x == 0) = true
  apply neg_beq_zero
  unfold boundedAsin
  simp only [beq_self_of_beq_zero h.c_x, Bool.not_true, Bool.false_eq_true, if_false,
    ge_iff_le, not_one_le_of_beq_zero h.c_x, not_le_neg_one_of_beq_zero h.c_x]
  show (Elementary.asin m.c.x == 0) = true
  unfold Elementary.asin
  rw [if_pos h.c_x]
  exact h.c_x

end Dcm

end SailSim
