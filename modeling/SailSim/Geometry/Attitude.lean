import SailSim.Geometry.Vec3

/-!
# Attitude as a direction cosine matrix

A `Dcm` has rows `a`, `b`, `c`; it maps body-frame vectors into the earth frame. Euler
angles follow the aerospace 3-2-1 convention: yaw about down, then pitch about the new
right axis, then roll about the new forward axis.

`rotate` applies a small body rotation to each row (a first-order step that leaves the rows
slightly off orthonormal) and `normalize` restores them: it shares the error of the first two
rows between them, rebuilds the third as their cross product, and scales all three to unit
length.
-/

namespace SailSim

/-- Roll, pitch and yaw in radians. -/
structure Euler (α : Type) where
  roll : α
  pitch : α
  yaw : α
  deriving Repr

/-- A 3×3 matrix stored by rows. -/
structure Dcm (α : Type) where
  a : Vec3 α
  b : Vec3 α
  c : Vec3 α
  deriving Repr

namespace Dcm

variable {α : Type} [Scalar α]

/-- The identity rotation. -/
def identity : Dcm α := ⟨⟨1, 0, 0⟩, ⟨0, 1, 0⟩, ⟨0, 0, 1⟩⟩

/-- The rotation with the given roll, pitch and yaw. -/
def ofEuler (roll pitch yaw : α) : Dcm α :=
  let cp := Scalar.cos pitch
  let sp := Scalar.sin pitch
  let cr := Scalar.cos roll
  let sr := Scalar.sin roll
  let cy := Scalar.cos yaw
  let sy := Scalar.sin yaw
  ⟨⟨cp * cy, sr * sp * cy - cr * sy, cr * sp * cy + sr * sy⟩,
   ⟨cp * sy, sr * sp * sy + cr * cy, cr * sp * sy - sr * cy⟩,
   ⟨-sp, sr * cp, cr * cp⟩⟩

/-- The inverse sine bounded to `[-π/2, π/2]`: arguments at or past ±1 give ±π/2, and NaN
gives 0. -/
def boundedAsin (v : α) : α :=
  if !(v == v) then 0
  else if v ≥ 1 then Scalar.pi / 2
  else if v ≤ -1 then -Scalar.pi / 2
  else Scalar.asin v

/-- Roll, pitch and yaw of the matrix. -/
def toEuler (m : Dcm α) : Euler α :=
  ⟨Scalar.atan2 m.c.y m.c.z, -boundedAsin m.c.x, Scalar.atan2 m.b.x m.a.x⟩

/-- `m · v`: a body-frame vector in the earth frame. -/
def mulVec (m : Dcm α) (v : Vec3 α) : Vec3 α := ⟨m.a.dot v, m.b.dot v, m.c.dot v⟩

/-- The transpose, which is the inverse rotation. -/
def transpose (m : Dcm α) : Dcm α :=
  ⟨⟨m.a.x, m.b.x, m.c.x⟩, ⟨m.a.y, m.b.y, m.c.y⟩, ⟨m.a.z, m.b.z, m.c.z⟩⟩

/-- The change of a row `r` under the small rotation `g`. -/
def rowDelta (r g : Vec3 α) : Vec3 α :=
  ⟨r.y * g.z - r.z * g.y, r.z * g.x - r.x * g.z, r.x * g.y - r.y * g.x⟩

/-- Applies the small body-frame rotation `g` (radians) to every row. -/
def rotate (m : Dcm α) (g : Vec3 α) : Dcm α :=
  ⟨m.a + rowDelta m.a g, m.b + rowDelta m.b g, m.c + rowDelta m.c g⟩

/-- Re-orthonormalizes the rows. -/
def normalize (m : Dcm α) : Dcm α :=
  let e := m.a.dot m.b
  let t0 := m.a - m.b.scale (0.5 * e)
  let t1 := m.b - m.a.scale (0.5 * e)
  let t2 := t0.cross t1
  ⟨t0.scale (1 / t0.length), t1.scale (1 / t1.length), t2.scale (1 / t2.length)⟩

end Dcm

end SailSim
