import SailSim.Sim.Settings
import SailSim.Magnetic.Earth

/-!
# Building a simulation from settings

`Setup.ofSettings` builds the simulation that a run is configured with: the boat's checked
parameters, the environment, a clock at zero, a position fix from the home position, and a
compass that reads the magnetic model at the configured start time. The boat settings are
checked first, then the home position, then the parameters as a whole.
-/

namespace SailSim

/-- A simulation with the home position it was built around. -/
structure Setup where
  sim : Sim Float
  home : Geodetic Float

namespace Setup

/-- The simulation the settings describe, stepped every `timeStep` seconds. Without
`compass` the boat carries no magnetometer. -/
def ofSettings (b : BoatSettings) (e : EnvironmentSettings) (timeStep : Float)
    (compass : Bool := true) : Except SetupError Setup := do
  let p ← b.toParams timeStep |>.mapError .boat
  let some home := Geodetic.parse? e.home | throw (.home e.home)
  let fix := (Locator.new home).fix
  let mag := if compass then some (Compass.new fun g => Magnetic.earthField g e.startTime)
    else none
  let sim ← Sim.new p (some (Environment.new e.toConfig)) (some Clock.start) (some fix) mag
    |>.mapError .params
  pure ⟨sim, home⟩

end Setup

end SailSim
