import SailSim.Wave

/-!
# The environment

The ambient conditions a boat steps against: wind with an optional sinusoidal gust, a tide,
a swell, and the autopilot's armed flag. Directions are where the wind or tide comes from,
in degrees clockwise from north; the wind vector points where the air goes. The gust depends
only on the simulated time, and the wind speed never drops below zero.
-/

namespace SailSim

/-- A fixed environment. -/
structure EnvConfig (α : Type) where
  windSpeed : α
  windDirection : α
  gustAmplitude : α
  gustPeriod : α
  tideSpeed : α
  tideDirection : α
  waves : WaveSettings α
  armed : Bool

/-- An environment with its current wind and armed flag. -/
structure Environment (α : Type) where
  config : EnvConfig α
  wind : Vec3 α
  armed : Bool

namespace EnvConfig

variable {α : Type} [Scalar α]

/-- Still air, no tide, no swell, disarmed. -/
def calm : EnvConfig α := ⟨0, 0, 0, 0, 0, 0, WaveSettings.calm, false⟩

/-- The earth-frame air velocity at simulated time `t` seconds. -/
def windAt (c : EnvConfig α) (t : α) : Vec3 α :=
  let speed := c.windSpeed
  let speed :=
    if !(c.gustAmplitude == 0) && c.gustPeriod > 0 then
      speed + c.gustAmplitude * Scalar.sin (2 * Scalar.pi * t / c.gustPeriod)
    else speed
  let speed := Scalar.max speed 0
  let r := c.windDirection * Scalar.pi / 180
  let s := Scalar.sin r
  let co := Scalar.cos r
  ⟨-co * speed, -s * speed, 0⟩

end EnvConfig

namespace Environment

variable {α : Type} [Scalar α]

/-- The environment at time zero. -/
def new (c : EnvConfig α) : Environment α := ⟨c, c.windAt 0, c.armed⟩

/-- The wind recomputed for simulated time `t`. -/
def updateWind (e : Environment α) (t : α) : Environment α := { e with wind := e.config.windAt t }

/-- The armed flag changed. -/
def setArmed (e : Environment α) (armed : Bool) : Environment α := { e with armed := armed }

end Environment

end SailSim
