import SailSim.Text.Blank
import SailSim.Text.ReadFloat
import SailSim.Text.Split

/-!
# Geodetic positions

A position on the WGS 84 ellipsoid: latitude and longitude in degrees and altitude in metres.
A position is written `"lon,lat[,alt]"`: comma-separated fields, each a float after trimming
white space; fields past the third are ignored, a missing altitude is zero, and the position
must have a longitude in `[-180, 180]` and a latitude in `[-90, 90]`, tested by comparison (so
a NaN passes).
-/

namespace SailSim

/-- A WGS 84 position. -/
structure Geodetic (α : Type) where
  /-- Degrees north. -/
  lat : α
  /-- Degrees east. -/
  lon : α
  /-- Metres above mean sea level. -/
  alt : α
  deriving Repr

namespace Geodetic

/-- The message of a rejected position text. -/
def invalidMessage : String := "invalid coordinates provided"

/-- One coordinate field: a float after trimming white space. -/
def field? (s : String) : Option Float :=
  match Text.readFloat (Text.trimBlank s) with
  | .ok v => some v
  | .error _ => none

/-- Whether a latitude and longitude lie in range, as the comparisons decide it. -/
def inRange (lat lon : Float) : Bool :=
  !(lat < -90 || lat > 90 || lon < -180 || lon > 180)

/-- The position a `"lon,lat[,alt]"` text denotes, if any. -/
def parse? (s : String) : Option (Geodetic Float) :=
  match Text.splitAt s ',' with
  | lonText :: latText :: rest => do
    let lon ← field? lonText
    let lat ← field? latText
    let alt ← match rest with
      | [] => some 0
      | altText :: _ => field? altText
    if inRange lat lon then some ⟨lat, lon, alt⟩ else none
  | _ => none

end Geodetic

end SailSim
