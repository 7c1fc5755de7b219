import SailSim.Scalar

/-!
# Three-component vectors

Earth-frame vectors are north, east, down; body-frame vectors are forward, right, down.
Every operation is written component by component in a fixed order of evaluation, which
fixes its binary64 result.
-/

namespace SailSim

/-- A vector of three components. -/
structure Vec3 (α : Type) where
  x : α
  y : α
  z : α
  deriving Repr

namespace Vec3

variable {α : Type} [Scalar α]

/-- The zero vector. -/
def zero : Vec3 α := ⟨0, 0, 0⟩

/-- Componentwise sum. -/
def add (v o : Vec3 α) : Vec3 α := ⟨v.x + o.x, v.y + o.y, v.z + o.z⟩

/-- Componentwise difference. -/
def sub (v o : Vec3 α) : Vec3 α := ⟨v.x - o.x, v.y - o.y, v.z - o.z⟩

/-- Every component multiplied by `f`. -/
def scale (v : Vec3 α) (f : α) : Vec3 α := ⟨v.x * f, v.y * f, v.z * f⟩

/-- The dot product. -/
def dot (v o : Vec3 α) : α := v.x * o.x + v.y * o.y + v.z * o.z

/-- The cross product `v × o`. -/
def cross (v o : Vec3 α) : Vec3 α :=
  ⟨v.y * o.z - v.z * o.y, v.z * o.x - v.x * o.z, v.x * o.y - v.y * o.x⟩

/-- The Euclidean length. -/
def length (v : Vec3 α) : α := Scalar.sqrt (v.x * v.x + v.y * v.y + v.z * v.z)

/-- The length of the north and east (or forward and right) components. -/
def horizontalLength (v : Vec3 α) : α := Scalar.sqrt (v.x * v.x + v.y * v.y)

/-- Whether every component equals zero. -/
def isZero (v : Vec3 α) : Bool := v.x == 0 && v.y == 0 && v.z == 0

instance : Inhabited (Vec3 α) := ⟨zero⟩

instance : Add (Vec3 α) := ⟨add⟩
instance : Sub (Vec3 α) := ⟨sub⟩

@[simp] theorem add_def (v o : Vec3 α) : v + o = ⟨v.x + o.x, v.y + o.y, v.z + o.z⟩ := rfl
@[simp] theorem sub_def (v o : Vec3 α) : v - o = ⟨v.x - o.x, v.y - o.y, v.z - o.z⟩ := rfl

end Vec3

end SailSim
