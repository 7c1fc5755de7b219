import Mathlib
import SailSim.Proofs.Exact
import SailSim.Geometry.Attitude

/-!
# Mirror images of vectors and attitudes

The reflection `S = diag(1, -1, 1)` swaps port and starboard: in the earth frame it reflects
east to west, in the body frame right to left. A position, velocity or acceleration maps to
`S v` (`Vec3.mirror`); a rate of turn is an axial vector and maps to `-S g = (-p, q, -r)`
(`Vec3.mirrorAxial`); an attitude maps to `S M S` (`Dcm.mirror`), whose rows are the first
row reflected, the second reflected as an axial vector and the third reflected.

In exact arithmetic every operation on attitudes commutes with the reflection:

* `Dcm.mulVec_mirror`, `Dcm.transpose_mirror`;
* `Dcm.rotate_mirror`: turning the mirrored attitude by the mirrored rates mirrors the turn;
* `Dcm.normalize_mirror`;
* `Dcm.ofEuler_mirror`: negated roll and yaw give the mirrored attitude;
* of the Euler angles of a mirrored attitude, the pitch is kept, the roll and yaw have their
  sines negated and cosines kept (`Dcm.sin_yaw_mirror`, ...), and the roll itself is negated
  unless the attitude is upside down on the cut of `atan2` (`Dcm.roll_mirror`).
-/

namespace SailSim

attribute [ext] Vec3 Dcm

namespace Vec3

variable {α : Type} [Scalar α]

/-- The vector reflected port to starboard, `S v`. -/
def mirror (v : Vec3 α) : Vec3 α := ⟨v.x, -v.y, v.z⟩

/-- An axial vector (a rate of turn) reflected port to starboard, `-S v`. -/
def mirrorAxial (v : Vec3 α) : Vec3 α := ⟨-v.x, v.y, -v.z⟩

@[simp] theorem mirror_x (v : Vec3 α) : v.mirror.x = v.x := rfl
@[simp] theorem mirror_y (v : Vec3 α) : v.mirror.y = -v.y := rfl
@[simp] theorem mirror_z (v : Vec3 α) : v.mirror.z = v.z := rfl
@[simp] theorem mirrorAxial_x (v : Vec3 α) : v.mirrorAxial.x = -v.x := rfl
@[simp] theorem mirrorAxial_y (v : Vec3 α) : v.mirrorAxial.y = v.y := rfl
@[simp] theorem mirrorAxial_z (v : Vec3 α) : v.mirrorAxial.z = -v.z := rfl

variable (u v : Vec3 ℝ) (f : ℝ)

theorem mirror_add : u.mirror + v.mirror = (u + v).mirror := by
  ext <;> simp [add_comm]

theorem mirror_sub : u.mirror - v.mirror = (u - v).mirror := by
  ext <;> simp [sub_eq_add_neg, add_comm]

theorem mirrorAxial_add : u.mirrorAxial + v.mirrorAxial = (u + v).mirrorAxial := by
  ext <;> simp [add_comm]

theorem mirrorAxial_sub : u.mirrorAxial - v.mirrorAxial = (u - v).mirrorAxial := by
  ext <;> simp [sub_eq_add_neg, add_comm]

theorem mirror_scale : u.mirror.scale f = (u.scale f).mirror := by
  ext <;> simp [scale]

theorem mirrorAxial_scale : u.mirrorAxial.scale f = (u.scale f).mirrorAxial := by
  ext <;> simp [scale]

-- A reflection composed with the point reflection `-1` is the other reflection.
theorem mirror_scale_neg : u.mirror.scale (-f) = (u.scale f).mirrorAxial := by
  ext <;> simp [scale]

theorem mirrorAxial_scale_neg : u.mirrorAxial.scale (-f) = (u.scale f).mirror := by
  ext <;> simp [scale]

theorem dot_mirror : u.mirror.dot v.mirror = u.dot v := by
  simp [dot]

theorem dot_mirrorAxial_mirror : u.mirrorAxial.dot v.mirror = -u.dot v := by
  simp only [dot, mirrorAxial_x, mirrorAxial_y, mirrorAxial_z, mirror_x, mirror_y, mirror_z]
  ring

theorem dot_mirror_mirrorAxial : u.mirror.dot v.mirrorAxial = -u.dot v := by
  simp only [dot, mirrorAxial_x, mirrorAxial_y, mirrorAxial_z, mirror_x, mirror_y, mirror_z]
  ring

theorem cross_mirror_mirrorAxial : u.mirror.cross v.mirrorAxial = (u.cross v).mirror := by
  ext <;> simp only [cross, mirrorAxial_x, mirrorAxial_y, mirrorAxial_z, mirror_x, mirror_y,
    mirror_z] <;> ring

theorem length_mirror : u.mirror.length = u.length := by
  simp [length]

theorem length_mirrorAxial : u.mirrorAxial.length = u.length := by
  simp [length]

theorem horizontalLength_mirror : u.mirror.horizontalLength = u.horizontalLength := by
  simp [horizontalLength]

end Vec3

namespace Dcm

variable {α : Type} [Scalar α]

/-- The attitude reflected port to starboard, `S M S`. -/
def mirror (m : Dcm α) : Dcm α := ⟨m.a.mirror, m.b.mirrorAxial, m.c.mirror⟩

@[simp] theorem mirror_a (m : Dcm α) : m.mirror.a = m.a.mirror := rfl
@[simp] theorem mirror_b (m : Dcm α) : m.mirror.b = m.b.mirrorAxial := rfl
@[simp] theorem mirror_c (m : Dcm α) : m.mirror.c = m.c.mirror := rfl

theorem transpose_mirror (m : Dcm α) : m.mirror.transpose = m.transpose.mirror := rfl

theorem toEuler_pitch_mirror (m : Dcm α) : m.mirror.toEuler.pitch = m.toEuler.pitch := rfl

variable (m : Dcm ℝ) (v g : Vec3 ℝ)

theorem mulVec_mirror : m.mirror.mulVec v.mirror = (m.mulVec v).mirror := by
  ext <;> simp [mulVec, Vec3.dot_mirror, Vec3.dot_mirrorAxial_mirror]

theorem rowDelta_mirror (r : Vec3 ℝ) : rowDelta r.mirror g.mirrorAxial = (rowDelta r g).mirror := by
  ext <;> simp only [rowDelta, Vec3.mirrorAxial_x, Vec3.mirrorAxial_y, Vec3.mirrorAxial_z,
    Vec3.mirror_x, Vec3.mirror_y, Vec3.mirror_z] <;> ring

theorem rowDelta_mirrorAxial (r : Vec3 ℝ) :
    rowDelta r.mirrorAxial g.mirrorAxial = (rowDelta r g).mirrorAxial := by
  ext <;> simp only [rowDelta, Vec3.mirrorAxial_x, Vec3.mirrorAxial_y, Vec3.mirrorAxial_z] <;>
    ring

theorem rotate_mirror : m.mirror.rotate g.mirrorAxial = (m.rotate g).mirror := by
  simp only [rotate, mirror, rowDelta_mirror, rowDelta_mirrorAxial, Vec3.mirror_add,
    Vec3.mirrorAxial_add]

-- The mirrored rows are reflected, reflected as an axial vector and reflected, so their dot
-- product changes sign and each correction term is reflected with its row.
theorem normalize_mirror : m.mirror.normalize = m.normalize.mirror := by
  simp only [normalize, mirror_a, mirror_b, Vec3.dot_mirror_mirrorAxial, mul_neg,
    Vec3.mirrorAxial_scale_neg, Vec3.mirror_scale_neg, Vec3.mirror_sub, Vec3.mirrorAxial_sub,
    Vec3.cross_mirror_mirrorAxial, Vec3.length_mirror, Vec3.length_mirrorAxial]
  simp only [Vec3.mirror_scale, Vec3.mirrorAxial_scale]
  rfl

theorem ofEuler_mirror (r p y y' : ℝ) (hs : Scalar.sin y' = -Scalar.sin y)
    (hc : Scalar.cos y' = Scalar.cos y) :
    ofEuler (-r) p y' = (ofEuler r p y).mirror := by
  ext <;> simp only [ofEuler, mirror_a, mirror_b, mirror_c, Vec3.mirror_x, Vec3.mirror_y,
    Vec3.mirror_z, Vec3.mirrorAxial_x, Vec3.mirrorAxial_y, Vec3.mirrorAxial_z, Scalar.sin_neg,
    Scalar.cos_neg, hs, hc] <;> ring

theorem sin_yaw_mirror : Scalar.sin m.mirror.toEuler.yaw = -Scalar.sin m.toEuler.yaw :=
  Scalar.sin_atan2_neg _ _

theorem cos_yaw_mirror : Scalar.cos m.mirror.toEuler.yaw = Scalar.cos m.toEuler.yaw :=
  Scalar.cos_atan2_neg _ _

theorem sin_roll_mirror : Scalar.sin m.mirror.toEuler.roll = -Scalar.sin m.toEuler.roll :=
  Scalar.sin_atan2_neg _ _

theorem cos_roll_mirror : Scalar.cos m.mirror.toEuler.roll = Scalar.cos m.toEuler.roll :=
  Scalar.cos_atan2_neg _ _

/-- Off the upside-down cut the mirrored attitude rolls the other way. -/
theorem roll_mirror (h : m.toEuler.roll ≠ Real.pi) :
    m.mirror.toEuler.roll = -m.toEuler.roll :=
  Scalar.atan2_neg _ _ h

/-- The attitude at a mirrored heading with negated roll is the mirrored attitude. -/
theorem ofEuler_mirror_yaw (r p : ℝ) :
    ofEuler (-r) p m.mirror.toEuler.yaw = (ofEuler r p m.toEuler.yaw).mirror :=
  ofEuler_mirror r p _ _ (sin_yaw_mirror m) (cos_yaw_mirror m)

end Dcm

end SailSim
