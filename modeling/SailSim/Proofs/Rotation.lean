import Mathlib
import SailSim.Proofs.Mirror.Frame

/-!
# Rotations and their Euler angles

An attitude is a direction cosine matrix whose rows carry the body axes into the earth frame.
In exact arithmetic:

* `Dcm.ofEuler_isRotation` : the matrix built from any roll, pitch and yaw is a rotation: its
  rows are orthonormal and the third is the cross product of the first two;
* `Dcm.IsRotation.normalize_eq` : `normalize` leaves a rotation as it is;
* `Dcm.toEuler_ofEuler` : reading the Euler angles of `ofEuler r p y` gives `(r, p, y)` back for
  a roll and yaw in `(-π, π]` and a pitch in `[-π/2, π/2]`, except at a pitch of `±π/2`, where
  the roll and yaw read `0`;
* `Dcm.isUnitFrame_normalize` : from first two rows of unit length that are not parallel,
  `normalize` makes three unit rows, the third normal to the first two and on their
  right-handed side;
* `Dcm.euler_round_trip_and_normalized_frame` : **off gimbal lock, Euler angles and rotations
  are inverse, `normalize` fixes rotations, and it turns any two non-parallel unit rows into a
  right-handed frame.**

`normalize` shares the error `e = a · b` of the first two rows between them,
`t₀ = a - (e/2) b` and `t₁ = b - (e/2) a`, then scales `t₀`, `t₁` and `t₀ × t₁` to unit length
(`Dcm.frameOf`). As `t₀ × t₁ = (1 - e²/4) (a × b)`, the third row lies along `a × b`; the first two
rows are brought closer to orthogonal (`t₀ · t₁ = e³/4`), not made orthogonal.
-/

namespace SailSim

/-! ### Reading angles in exact arithmetic -/

/-- A positive multiple of the unit vector at angle `θ` lies at angle `θ`. -/
theorem atan2_mul_sin_cos {c θ : ℝ} (hc : 0 < c) (hθ : θ ∈ Set.Ioc (-Real.pi) Real.pi) :
    Scalar.atan2 (c * Real.sin θ) (c * Real.cos θ) = θ := by
  have hpoint : (⟨c * Real.cos θ, c * Real.sin θ⟩ : ℂ) =
      (c : ℂ) * (Complex.cos θ + Complex.sin θ * Complex.I) := by
    apply Complex.ext <;> simp [Complex.cos_ofReal_re, Complex.sin_ofReal_re]
  rw [Scalar.atan2_real, hpoint, Complex.arg_real_mul _ hc, Complex.arg_cos_add_sin_mul_I hθ]

theorem atan2_zero_zero : Scalar.atan2 (0 : ℝ) 0 = 0 := Complex.arg_zero

theorem atan2_mem_Ioc (y x : ℝ) : Scalar.atan2 y x ∈ Set.Ioc (-Real.pi) Real.pi :=
  ⟨Complex.neg_pi_lt_arg _, Complex.arg_le_pi _⟩

/-! ### Vectors in exact arithmetic -/

namespace Vec3

variable (u v : Vec3 ℝ) (s t : ℝ)

theorem dot_self_nonneg : 0 ≤ u.dot u :=
  add_nonneg (add_nonneg (mul_self_nonneg _) (mul_self_nonneg _)) (mul_self_nonneg _)

theorem eq_zero_of_dot_self_eq_zero {u : Vec3 ℝ} (h : u.dot u = 0) :
    u.x = 0 ∧ u.y = 0 ∧ u.z = 0 := by
  have hx := mul_self_nonneg u.x
  have hy := mul_self_nonneg u.y
  have hz := mul_self_nonneg u.z
  simp only [dot] at h
  exact ⟨mul_self_eq_zero.1 (by linarith), mul_self_eq_zero.1 (by linarith),
    mul_self_eq_zero.1 (by linarith)⟩

theorem scale_dot_scale : (u.scale s).dot (v.scale t) = s * t * u.dot v := by
  simp only [dot, scale]
  ring

theorem scale_cross_scale : (u.scale s).cross (v.scale t) = (u.cross v).scale (s * t) := by
  ext <;> simp only [cross, scale] <;> ring

theorem dot_cross_self_left : u.dot (u.cross v) = 0 := by
  simp only [dot, cross]
  ring

theorem dot_cross_self_right : v.dot (u.cross v) = 0 := by
  simp only [dot, cross]
  ring

/-- Lagrange's identity: `|u × v|² = |u|² |v|² - (u · v)²`. -/
theorem cross_dot_cross_self : (u.cross v).dot (u.cross v) = u.dot u * v.dot v - u.dot v ^ 2 := by
  simp only [dot, cross]
  ring

theorem sub_scale_dot_sub_scale :
    (v - u.scale s).dot (v - u.scale s) = v.dot v - 2 * s * u.dot v + s ^ 2 * u.dot u := by
  simp only [dot, scale, sub_def]
  ring

/-- Taking `s` of each of two vectors off the other scales their cross product by `1 - s²`. -/
theorem sub_scale_cross_sub_scale :
    (u - v.scale s).cross (v - u.scale s) = (u.cross v).scale (1 - s ^ 2) := by
  ext <;> simp only [cross, scale, sub_def] <;> ring

theorem length_sq : u.length ^ 2 = u.dot u := Real.sq_sqrt (dot_self_nonneg u)

variable {u}

theorem length_pos (h : 0 < u.dot u) : 0 < u.length := Real.sqrt_pos.2 h

/-- A vector of positive length scaled by its inverse length is a unit vector. -/
theorem unit_dot_self (h : 0 < u.dot u) :
    (u.scale (1 / u.length)).dot (u.scale (1 / u.length)) = 1 := by
  have hL : u.length ≠ 0 := (length_pos h).ne'
  rw [scale_dot_scale, ← length_sq]
  field_simp

variable (u)

/-- A unit vector `u` and a vector `v` that is no multiple of it span a plane: their cross product
has positive length. The part of `v` off `u` is as long as `u × v`, and it vanishes only when `v`
is a multiple of `u`. -/
theorem cross_dot_self_pos (hu : u.dot u = 1) (hpar : ¬∃ k : ℝ, v = u.scale k) :
    0 < (u.cross v).dot (u.cross v) := by
  have hoff : (v - u.scale (u.dot v)).dot (v - u.scale (u.dot v)) =
      (u.cross v).dot (u.cross v) := by
    rw [sub_scale_dot_sub_scale, cross_dot_cross_self, hu]
    ring
  rcases (dot_self_nonneg (u.cross v)).lt_or_eq with hpos | hzero
  · exact hpos
  · obtain ⟨hx, hy, hz⟩ := eq_zero_of_dot_self_eq_zero (hoff.trans hzero.symm)
    refine absurd ⟨u.dot v, ?_⟩ hpar
    ext
    · simp only [scale, sub_def] at hx ⊢; linarith
    · simp only [scale, sub_def] at hy ⊢; linarith
    · simp only [scale, sub_def] at hz ⊢; linarith

end Vec3

namespace Dcm

/-! ### Rotations -/

/-- A rotation: orthonormal rows, the third the cross product of the first two. -/
structure IsRotation (m : Dcm ℝ) : Prop where
  a_unit : m.a.dot m.a = 1
  b_unit : m.b.dot m.b = 1
  c_unit : m.c.dot m.c = 1
  a_dot_b : m.a.dot m.b = 0
  a_dot_c : m.a.dot m.c = 0
  b_dot_c : m.b.dot m.c = 0
  c_eq_cross : m.c = m.a.cross m.b

/-- Two orthogonal unit rows and their cross product as the third make a rotation. -/
theorem IsRotation.of_cross {m : Dcm ℝ} (ha : m.a.dot m.a = 1) (hb : m.b.dot m.b = 1)
    (hab : m.a.dot m.b = 0) (hc : m.c = m.a.cross m.b) : IsRotation m where
  a_unit := ha
  b_unit := hb
  c_unit := by rw [hc, Vec3.cross_dot_cross_self, ha, hb, hab]; norm_num
  a_dot_b := hab
  a_dot_c := by rw [hc, Vec3.dot_cross_self_left]
  b_dot_c := by rw [hc, Vec3.dot_cross_self_right]
  c_eq_cross := hc

/-- `normalize` leaves a rotation as it is: its rows have no error to share and unit length. -/
theorem IsRotation.normalize_eq {m : Dcm ℝ} (h : IsRotation m) : m.normalize = m := by
  have hsub : ∀ u w : Vec3 ℝ, u - w.scale (0.5 * 0) = u := fun u w => by
    ext <;> simp [Vec3.scale]
  have hunit : ∀ u : Vec3 ℝ, u.dot u = 1 → u.scale (1 / u.length) = u := fun u hu => by
    have hlen : u.length = 1 := by
      simp only [Vec3.length, Scalar.sqrt_real]
      rw [show u.x * u.x + u.y * u.y + u.z * u.z = u.dot u from rfl, hu, Real.sqrt_one]
    ext <;> simp [Vec3.scale, hlen]
  simp only [normalize, h.a_dot_b, hsub, Scalar.one_real]
  rw [← h.c_eq_cross, hunit _ h.a_unit, hunit _ h.b_unit, hunit _ h.c_unit]

/-- In exact arithmetic the bounded inverse sine is the inverse sine, which is already `±π/2`
at and beyond `±1`. -/
theorem boundedAsin_real (v : ℝ) : boundedAsin v = Real.arcsin v := by
  have hself : (v == v) = true := by simp [BEq.beq]
  simp only [boundedAsin, hself, Bool.not_true, Bool.false_eq_true, if_false, Scalar.asin_real,
    Scalar.pi_real, Scalar.one_real]
  split_ifs with h₁ h₂
  · exact (Real.arcsin_of_one_le h₁).symm
  · rw [Real.arcsin_of_le_neg_one h₂, neg_div]
  · rfl

theorem toEuler_yaw_mem (m : Dcm ℝ) : m.toEuler.yaw ∈ Set.Ioc (-Real.pi) Real.pi :=
  atan2_mem_Ioc _ _

theorem toEuler_pitch_mem (m : Dcm ℝ) :
    m.toEuler.pitch ∈ Set.Icc (-(Real.pi / 2)) (Real.pi / 2) := by
  simp only [toEuler, boundedAsin_real]
  constructor <;> linarith [Real.neg_pi_div_two_le_arcsin m.c.x, Real.arcsin_le_pi_div_two m.c.x]

/-! ### Rotations built from Euler angles -/

section Euler

variable (r p y : ℝ)

theorem ofEuler_real : (ofEuler r p y : Dcm ℝ) =
    ⟨⟨Real.cos p * Real.cos y, Real.sin r * Real.sin p * Real.cos y - Real.cos r * Real.sin y,
        Real.cos r * Real.sin p * Real.cos y + Real.sin r * Real.sin y⟩,
      ⟨Real.cos p * Real.sin y, Real.sin r * Real.sin p * Real.sin y + Real.cos r * Real.cos y,
        Real.cos r * Real.sin p * Real.sin y - Real.sin r * Real.cos y⟩,
      ⟨-Real.sin p, Real.sin r * Real.cos p, Real.cos r * Real.cos p⟩⟩ := rfl

/-- **A matrix built from Euler angles is a rotation**, whatever the angles. Each identity is a
combination of `sin² + cos² = 1` for the three angles. -/
theorem ofEuler_isRotation : IsRotation (ofEuler r p y) := by
  have hr := Real.sin_sq_add_cos_sq r
  have hp := Real.sin_sq_add_cos_sq p
  have hy := Real.sin_sq_add_cos_sq y
  apply IsRotation.of_cross
  · simp only [ofEuler_real, Vec3.dot]
    linear_combination (Real.sin p ^ 2 * Real.cos y ^ 2 + Real.sin y ^ 2) * hr +
      Real.cos y ^ 2 * hp + hy
  · simp only [ofEuler_real, Vec3.dot]
    linear_combination (Real.sin p ^ 2 * Real.sin y ^ 2 + Real.cos y ^ 2) * hr +
      Real.sin y ^ 2 * hp + hy
  · simp only [ofEuler_real, Vec3.dot]
    linear_combination (Real.cos y * Real.sin y * Real.sin p ^ 2 - Real.cos y * Real.sin y) * hr +
      Real.cos y * Real.sin y * hp
  · simp only [ofEuler_real, Vec3.cross]
    ext
    · linear_combination (Real.sin p * (Real.cos y ^ 2 + Real.sin y ^ 2)) * hr + Real.sin p * hy
    · linear_combination -(Real.sin r * Real.cos p * hy)
    · linear_combination -(Real.cos r * Real.cos p * hy)

/-- A matrix built from Euler angles is a rotation, so `normalize` keeps it. -/
theorem normalize_ofEuler : (ofEuler r p y : Dcm ℝ).normalize = ofEuler r p y :=
  (ofEuler_isRotation r p y).normalize_eq

variable {r p y}

theorem neg_boundedAsin_neg_sin (hp : p ∈ Set.Icc (-(Real.pi / 2)) (Real.pi / 2)) :
    -boundedAsin (-Real.sin p) = p := by
  rw [boundedAsin_real, Real.arcsin_neg, neg_neg]
  exact Real.arcsin_sin hp.1 hp.2

/-- **The Euler round trip.** The Euler reading of `ofEuler r p y` gives back the angles for a
roll and yaw in `(-π, π]` and a pitch in `[-π/2, π/2]`; at a pitch of `±π/2` the third row of
the rotation is vertical, and the roll and yaw both read `0`. -/
theorem toEuler_ofEuler (hr : r ∈ Set.Ioc (-Real.pi) Real.pi)
    (hp : p ∈ Set.Icc (-(Real.pi / 2)) (Real.pi / 2)) (hy : y ∈ Set.Ioc (-Real.pi) Real.pi) :
    (ofEuler r p y : Dcm ℝ).toEuler =
      if p = Real.pi / 2 ∨ p = -(Real.pi / 2) then ⟨0, p, 0⟩ else ⟨r, p, y⟩ := by
  simp only [toEuler, ofEuler_real, neg_boundedAsin_neg_sin hp]
  split
  · rename_i hlock
    -- at gimbal lock the cosine of the pitch vanishes, and with it both angle readings
    have hcos : Real.cos p = 0 := by
      rcases hlock with rfl | rfl
      · exact Real.cos_pi_div_two
      · rw [Real.cos_neg, Real.cos_pi_div_two]
    simp only [hcos, mul_zero, zero_mul, atan2_zero_zero]
  · rename_i hlock
    push Not at hlock
    have hcos : 0 < Real.cos p :=
      Real.cos_pos_of_mem_Ioo ⟨lt_of_le_of_ne hp.1 (Ne.symm hlock.2), lt_of_le_of_ne hp.2 hlock.1⟩
    rw [mul_comm (Real.sin r), mul_comm (Real.cos r), atan2_mul_sin_cos hcos hr,
      atan2_mul_sin_cos hcos hy]

end Euler

/-! ### Normalizing any two rows -/

/-- Unit rows, the third orthogonal to the first two and on their right-handed side (the
triple product of the rows is positive). The first two need not be orthogonal. -/
structure IsUnitFrame (m : Dcm ℝ) : Prop where
  a_unit : m.a.dot m.a = 1
  b_unit : m.b.dot m.b = 1
  c_unit : m.c.dot m.c = 1
  a_dot_c : m.a.dot m.c = 0
  b_dot_c : m.b.dot m.c = 0
  right_handed : 0 < (m.a.cross m.b).dot m.c

/-- Two vectors and their cross product, each scaled to unit length. -/
noncomputable def frameOf (t₀ t₁ : Vec3 ℝ) : Dcm ℝ :=
  ⟨t₀.scale (1 / t₀.length), t₁.scale (1 / t₁.length),
    (t₀.cross t₁).scale (1 / (t₀.cross t₁).length)⟩

/-- `normalize` takes half the error of the first two rows off each, and builds the frame of
what is left. -/
theorem normalize_eq_frameOf (m : Dcm ℝ) :
    m.normalize = frameOf (m.a - m.b.scale (m.a.dot m.b / 2)) (m.b - m.a.scale (m.a.dot m.b / 2)) := by
  have half : (0.5 : ℝ) * m.a.dot m.b = m.a.dot m.b / 2 := by
    rw [Scalar.ofScientific_real]
    norm_num
    ring
  simp only [normalize, frameOf, Scalar.one_real, half]

/-- Two vectors whose cross product has positive length give a unit frame: each scaled vector
is a unit vector, the cross product is orthogonal to both factors, and the triple product of
the scaled rows is a positive multiple of `|t₀ × t₁|²`. -/
theorem isUnitFrame_frameOf {t₀ t₁ : Vec3 ℝ} (h : 0 < (t₀.cross t₁).dot (t₀.cross t₁)) :
    IsUnitFrame (frameOf t₀ t₁) := by
  -- neither factor vanishes, as `|t₀ × t₁|² ≤ |t₀|² |t₁|²`
  have hprod : 0 < t₀.dot t₀ * t₁.dot t₁ := by
    have := Vec3.cross_dot_cross_self t₀ t₁
    nlinarith [sq_nonneg (t₀.dot t₁)]
  have h₀ : 0 < t₀.dot t₀ := pos_of_mul_pos_left hprod (Vec3.dot_self_nonneg t₁)
  have h₁ : 0 < t₁.dot t₁ := pos_of_mul_pos_right hprod (Vec3.dot_self_nonneg t₀)
  refine ⟨Vec3.unit_dot_self h₀, Vec3.unit_dot_self h₁, Vec3.unit_dot_self h, ?_, ?_, ?_⟩
  · simp only [frameOf]
    rw [Vec3.scale_dot_scale, Vec3.dot_cross_self_left, mul_zero]
  · simp only [frameOf]
    rw [Vec3.scale_dot_scale, Vec3.dot_cross_self_right, mul_zero]
  · simp only [frameOf]
    rw [Vec3.scale_cross_scale, Vec3.scale_dot_scale]
    have hL₀ := one_div_pos.2 (Vec3.length_pos h₀)
    have hL₁ := one_div_pos.2 (Vec3.length_pos h₁)
    have hL₂ := one_div_pos.2 (Vec3.length_pos h)
    exact mul_pos (mul_pos (mul_pos hL₀ hL₁) hL₂) h

/-- **Normalizing two non-parallel unit rows gives a right-handed unit frame.** The cross
product of what `normalize` keeps of the rows is `1 - e²/4` times `a × b`, where `e = a · b` has
`e² < 1` as the rows are not parallel. -/
theorem isUnitFrame_normalize {m : Dcm ℝ} (ha : m.a.dot m.a = 1) (hb : m.b.dot m.b = 1)
    (hpar : ¬∃ k : ℝ, m.b = m.a.scale k) : IsUnitFrame m.normalize := by
  have hcross := Vec3.cross_dot_self_pos m.a m.b ha hpar
  have he : m.a.dot m.b ^ 2 < 1 := by
    have := Vec3.cross_dot_cross_self m.a m.b
    rw [ha, hb] at this
    linarith
  have hshrink : 0 < 1 - (m.a.dot m.b / 2) ^ 2 := by nlinarith
  rw [normalize_eq_frameOf]
  apply isUnitFrame_frameOf
  rw [Vec3.sub_scale_cross_sub_scale, Vec3.scale_dot_scale]
  exact mul_pos (mul_pos hshrink hshrink) hcross

/-- **Euler angles and rotations are inverse, and `normalize` fixes rotations and frames any
two rows.** For a roll and yaw in `(-π, π]` and a pitch strictly inside `(-π/2, π/2)`, the
matrix built from the angles is a rotation, `normalize` leaves it as it is, and its Euler reading
is exactly the angles. For a matrix whose first two rows are non-parallel unit vectors,
`normalize` gives unit rows, the third orthogonal to the first two and right-handed with them. -/
theorem euler_round_trip_and_normalized_frame :
    (∀ r p y : ℝ, r ∈ Set.Ioc (-Real.pi) Real.pi → p ∈ Set.Ioo (-(Real.pi / 2)) (Real.pi / 2) →
        y ∈ Set.Ioc (-Real.pi) Real.pi →
        IsRotation (ofEuler r p y) ∧ (ofEuler r p y).normalize = ofEuler r p y ∧
          (ofEuler r p y).toEuler = ⟨r, p, y⟩) ∧
      ∀ m : Dcm ℝ, m.a.dot m.a = 1 → m.b.dot m.b = 1 → (¬∃ k : ℝ, m.b = m.a.scale k) →
        IsUnitFrame m.normalize := by
  refine ⟨fun r p y hr hp hy => ⟨ofEuler_isRotation r p y, normalize_ofEuler r p y, ?_⟩,
    fun m ha hb hpar => isUnitFrame_normalize ha hb hpar⟩
  -- strictly inside `(-π/2, π/2)` the pitch is off gimbal lock
  have hlock : ¬(p = Real.pi / 2 ∨ p = -(Real.pi / 2)) := by
    rintro (rfl | rfl)
    · exact lt_irrefl _ hp.2
    · exact lt_irrefl _ hp.1
  rw [toEuler_ofEuler hr (Set.Ioo_subset_Icc_self hp) hy, if_neg hlock]

/-- The roll `π` at the closed end of its range reads back as `π`; two unit rows about `53°`
apart normalize to a right-handed unit frame. -/
theorem upside_down_round_trip_and_sheared_frame :
    Real.pi ∈ Set.Ioc (-Real.pi) Real.pi ∧ (0 : ℝ) ∈ Set.Ioo (-(Real.pi / 2)) (Real.pi / 2) ∧
      (0 : ℝ) ∈ Set.Ioc (-Real.pi) Real.pi ∧
      (ofEuler Real.pi 0 0 : Dcm ℝ).toEuler = ⟨Real.pi, 0, 0⟩ ∧
      (⟨1, 0, 0⟩ : Vec3 ℝ).dot ⟨1, 0, 0⟩ = 1 ∧ (⟨3 / 5, 4 / 5, 0⟩ : Vec3 ℝ).dot ⟨3 / 5, 4 / 5, 0⟩ = 1 ∧
      (¬∃ k : ℝ, (⟨3 / 5, 4 / 5, 0⟩ : Vec3 ℝ) = (⟨1, 0, 0⟩ : Vec3 ℝ).scale k) ∧
      IsUnitFrame (⟨⟨1, 0, 0⟩, ⟨3 / 5, 4 / 5, 0⟩, ⟨0, 0, 0⟩⟩ : Dcm ℝ).normalize := by
  have hpi : Real.pi ∈ Set.Ioc (-Real.pi) Real.pi := ⟨by linarith [Real.pi_pos], le_rfl⟩
  have hp : (0 : ℝ) ∈ Set.Ioo (-(Real.pi / 2)) (Real.pi / 2) :=
    ⟨by linarith [Real.pi_pos], by linarith [Real.pi_pos]⟩
  have hy : (0 : ℝ) ∈ Set.Ioc (-Real.pi) Real.pi := ⟨by linarith [Real.pi_pos], Real.pi_pos.le⟩
  have ha : (⟨1, 0, 0⟩ : Vec3 ℝ).dot ⟨1, 0, 0⟩ = 1 := by norm_num [Vec3.dot]
  have hb : (⟨3 / 5, 4 / 5, 0⟩ : Vec3 ℝ).dot ⟨3 / 5, 4 / 5, 0⟩ = 1 := by norm_num [Vec3.dot]
  have hpar : ¬∃ k : ℝ, (⟨3 / 5, 4 / 5, 0⟩ : Vec3 ℝ) = (⟨1, 0, 0⟩ : Vec3 ℝ).scale k := by
    rintro ⟨k, hk⟩
    have hy := congrArg Vec3.y hk
    norm_num [Vec3.scale] at hy
  exact ⟨hpi, hp, hy, (euler_round_trip_and_normalized_frame.1 _ _ _ hpi hp hy).2.2, ha, hb, hpar,
    euler_round_trip_and_normalized_frame.2 ⟨⟨1, 0, 0⟩, ⟨3 / 5, 4 / 5, 0⟩, ⟨0, 0, 0⟩⟩ ha hb hpar⟩

end Dcm

end SailSim
