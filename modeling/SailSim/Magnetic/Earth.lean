import SailSim.Magnetic.Model
import SailSim.Time.Instant
import SailSim.Geometry.Vec3
import SailSim.Geo.Geodetic

/-!
# The earth field a compass reads

`earthField` is the model's field at a geodetic position and date, in milligauss on the
north, east and down axes. It is rebuilt from the total intensity and the two angles in
degrees: with `F` the total, `I` the inclination and `D` the declination,
`(F cos I cos D, F cos I sin D, F sin I)`.

A date enters the model as a decimal year: the calendar year of the date in its own zone
plus the elapsed fraction of that year.
-/

namespace SailSim.Magnetic

open Elementary

/-- Milligauss per nanotesla. -/
def milligaussPerNanotesla : Float := 0.01

/-- The decimal year of an instant: its year plus the fraction of the year gone by. -/
def decimalYear (t : Instant) : Float :=
  let c := t.toCivil
  let start := (Civil.toInstant ⟨c.year, 1, 1, 0, 0, 0, 0⟩ t.offset).unix
  let next := (Civil.toInstant ⟨c.year + 1, 1, 1, 0, 0, 0, 0⟩ t.offset).unix
  let elapsed : Float := Float.ofInt ((t.unix - start) * 1000000000 + t.nanos)
  let length : Float := Float.ofInt ((next - start) * 1000000000)
  Float.ofInt c.year + elapsed / length

/-- The earth field in milligauss, north, east and down, at `g` on the date `date`. -/
def earthField (g : Geodetic Float) (date : Instant) : Vec3 Float :=
  let b := field g.lat g.lon g.alt (decimalYear date)
  let total := b.total * milligaussPerNanotesla
  let inc := b.inclination * pi / 180
  let dec := b.declination * pi / 180
  let horizontal := total * cos inc
  ⟨horizontal * cos dec, horizontal * sin dec, total * sin inc⟩

end SailSim.Magnetic
