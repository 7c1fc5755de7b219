import SailSim.Geometry.Attitude
import SailSim.Geo.Geodetic

/-!
# Position and magnetic instruments

Two instruments read the simulated boat. A position fix maps the boat's north-east-down
offset from home to a geodetic position and keeps the last one it gave, home until the boat
first moves. A compass reads the earth's magnetic field at the boat's position and turns it
into the body frame; the earth field is recomputed only when the position has moved more
than a thousandth of a degree in latitude or longitude from where it was last computed.
-/

namespace SailSim

/-- A position fix. -/
structure GeoFix (α : Type) where
  /-- The position at a north-east-down offset from home. -/
  locate : Vec3 α → Geodetic α
  /-- The last position given. -/
  location : Geodetic α

namespace GeoFix

variable {α : Type}

/-- The fix after the boat moved to offset `p`. -/
def update (f : GeoFix α) (p : Vec3 α) : GeoFix α := { f with location := f.locate p }

end GeoFix

/-- A compass over an earth field model. -/
structure Compass (α : Type) where
  /-- The earth field at a position, north-east-down. -/
  earthAt : Geodetic α → Vec3 α
  /-- Where the field was last computed, and its value there. -/
  cache : Option (Geodetic α × Vec3 α)

namespace Compass

variable {α : Type} [Scalar α]

/-- Degrees the position may move before the field is recomputed. -/
def refreshDeg : α := 0.001

/-- Whether `b` lies more than `refreshDeg` from `a` in latitude or longitude. -/
def moved (a b : Geodetic α) : Bool :=
  decide (Scalar.abs (a.lat - b.lat) > refreshDeg) || decide (Scalar.abs (a.lon - b.lon) > refreshDeg)

/-- A compass with nothing computed yet. -/
def new (earthAt : Geodetic α → Vec3 α) : Compass α := ⟨earthAt, none⟩

/-- The earth field at `g`, from the cache unless the position has moved. -/
def earth (c : Compass α) (g : Geodetic α) : Vec3 α × Compass α :=
  let fresh (_ : Unit) := let e := c.earthAt g; (e, { c with cache := some (g, e) })
  match c.cache with
  | some (last, e) => if moved last g then fresh () else (e, c)
  | none => fresh ()

/-- The field at `g` in the body frame of the attitude `dcm`. -/
def bodyField (c : Compass α) (g : Geodetic α) (dcm : Dcm α) : Vec3 α × Compass α :=
  let (e, c) := c.earth g
  (dcm.transpose.mulVec e, c)

end Compass

end SailSim
