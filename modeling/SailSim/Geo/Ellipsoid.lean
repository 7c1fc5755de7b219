import SailSim.Elementary.Arc
import SailSim.Elementary.ExpLog
import SailSim.Elementary.Trig

/-!
# The WGS 84 ellipsoid and the web Mercator projection

Geographic coordinates (longitude, latitude, height) pass to earth-centred cartesian
coordinates and back by the closed forms for the WGS 84 ellipsoid; the way back uses
Bowring's one-step approximation of the latitude. A change between geographic coordinates
and web Mercator (EPSG 3857) coordinates always goes through the cartesian form, so even a
longitude of 360° comes back reduced.

Web Mercator treats the ellipsoid's latitude and longitude as if on a sphere of the
ellipsoid's semi-major axis: `east = a·λ`, `north = a·ln tan(φ/2 + π/4)`.
-/

namespace SailSim.Geo

open Elementary

/-- Semi-major axis, m. -/
def semiMajor : Float := 6378137

/-- The inverse flattening. -/
def inverseFlattening : Float := 298.257223563

/-- The flattening. -/
def flattening : Float := 1 / inverseFlattening

/-- The square of the first eccentricity. -/
def eccentricitySq : Float := 2 * flattening - flattening * flattening

/-- Semi-minor axis, m. -/
def semiMinor : Float := semiMajor * (1 - flattening)

/-- Degrees to radians. -/
def radian (d : Float) : Float := d * pi / 180

/-- Radians to degrees. -/
def degree (r : Float) : Float := r * 180 / pi

/-- The cube of `x`, as `x · x²`. -/
def cube (x : Float) : Float := x * (x * x)

/-- The radius of curvature in the prime vertical at latitude `phi` (radians). -/
def primeVerticalRadius (phi : Float) : Float :=
  let s := sin phi
  semiMajor / Float.sqrt (1 - eccentricitySq * (s * s))

/-- Earth-centred, earth-fixed cartesian coordinates, m. -/
structure Cartesian where
  x : Float
  y : Float
  z : Float

/-- Geographic coordinates: degrees and metres above the ellipsoid. -/
structure LonLat where
  lon : Float
  lat : Float
  height : Float

/-- The cartesian coordinates of a geographic position. -/
def LonLat.toCartesian (g : LonLat) : Cartesian :=
  let phi := radian g.lat
  let lam := radian g.lon
  ⟨(primeVerticalRadius phi + g.height) * cos lam * cos phi,
    (primeVerticalRadius phi + g.height) * cos phi * sin lam,
    (primeVerticalRadius phi * (semiMinor * semiMinor) / (semiMajor * semiMajor) + g.height) *
      sin phi⟩

/-- The geographic position of cartesian coordinates. -/
def Cartesian.toLonLat (p : Cartesian) : LonLat :=
  let sd := Float.sqrt (p.x * p.x + p.y * p.y)
  let t := atan (p.z * semiMajor / (sd * semiMinor))
  let b := atan ((p.z + eccentricitySq * (semiMajor * semiMajor) / semiMinor * cube (sin t)) /
    (sd - eccentricitySq * semiMajor * cube (cos t)))
  let h := sd / cos b - primeVerticalRadius b
  ⟨degree (atan2 p.y p.x), degree b, h⟩

/-- A geographic position passed through cartesian coordinates. -/
def LonLat.normalize (g : LonLat) : LonLat := g.toCartesian.toLonLat

/-- Web Mercator coordinates, m. -/
structure EastNorth where
  east : Float
  north : Float

/-- The web Mercator coordinates of a longitude and latitude at height zero. -/
def toWebMercator (lon lat : Float) : EastNorth :=
  let g := (LonLat.mk lon lat 0).normalize
  ⟨radian g.lon * semiMajor, log (tan (radian g.lat / 2 + quarterPi)) * semiMajor⟩

/-- The geographic position of web Mercator coordinates. -/
def ofWebMercator (p : EastNorth) : LonLat :=
  let lon := degree (p.east / semiMajor)
  let lat := atan (exp (p.north / semiMajor)) * degree 2 - 90
  (LonLat.mk lon lat 0).normalize

end SailSim.Geo
