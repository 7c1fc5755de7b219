import SailSim.Geo.Ellipsoid
import SailSim.Geo.Geodetic
import SailSim.Geometry.Vec3

/-!
# Locating the boat

A locator turns the boat's north-east-down offset from home into a geodetic position. It
works in web Mercator: home's projected point is moved east by the east offset and north by
the north offset, each stretched by `1 / cos(home latitude)`, the Mercator scale there, and
projected back. The altitude is home's less the down offset. Until the first offset arrives
the location is home itself.
-/

namespace SailSim

/-- A locator anchored at a home position. -/
structure Locator where
  home : Geodetic Float
  /-- Home in web Mercator. -/
  homeMercator : Geo.EastNorth
  /-- Web Mercator metres per local metre at home. -/
  scale : Float
  /-- The last computed position. -/
  location : Geodetic Float

namespace Locator

/-- A locator at `home`. -/
def new (home : Geodetic Float) : Locator :=
  ⟨home, Geo.toWebMercator home.lon home.lat, 1 / Elementary.cos (home.lat * Elementary.pi / 180),
    home⟩

/-- The position at a north-east-down offset from home. -/
def offset (l : Locator) (p : Vec3 Float) : Geodetic Float :=
  let g := Geo.ofWebMercator ⟨l.homeMercator.east + p.y * l.scale,
    l.homeMercator.north + p.x * l.scale⟩
  ⟨g.lat, g.lon, l.home.alt - p.z⟩

/-- The locator after the boat moved to offset `p`. -/
def update (l : Locator) (p : Vec3 Float) : Locator := { l with location := l.offset p }

end Locator

end SailSim
