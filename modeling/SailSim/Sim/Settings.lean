import SailSim.Sim.Basic
import SailSim.Geo.Locator
import SailSim.Time.Instant

/-!
# Boat and environment settings

The settings a run is configured with, in the words of the configuration file: the boat's
sail, hull and keel, and the environment with the home position and the start time. Each
field has the configuration's default.

`BoatSettings.toParams` reads the sail type, the force scaling and the heel policy by name
(in that order, the first unknown name failing) and then checks the resulting parameters.
`EnvironmentSettings.toConfig` is the environment they describe; a wave enable code is kept
as it is.
-/

namespace SailSim

/-- The heel model's settings. -/
structure HeelSettings where
  policy : String := "direct"
  angleGain : Float := 0.05
  centerOfEffort : Float := 0.5
  keelMass : Float := 1.0
  keelDepth : Float := 0.5
  keelChord : Float := 0.1
  damping : Float := 50.0

/-- The swell disturbance's gains. -/
structure WaveGainSettings where
  angle : Float := 1.0
  heave : Float := 1.0

/-- The boat's settings. -/
structure BoatSettings where
  frame : String := "sailboat"
  sailType : String := "mainsail"
  forceScaling : String := "si"
  sailArea : Float := 1.0
  airDensity : Float := 1.225
  mass : Float := 2.0
  steeringAngleMax : Float := 35.0
  turningCircle : Float := 1.8
  hullDrag : Float := 0.5
  throttleGain : Float := 0.1
  heel : HeelSettings := {}
  waveGains : WaveGainSettings := {}

/-- Why boat settings give no parameters. -/
inductive BoatError where
  | sailType (name : String)
  | forceScaling (name : String)
  | heelPolicy (name : String)
  | invalid (e : ParamError Float)

/-- The message of a boat settings error. -/
def BoatError.message : BoatError → String
  | .sailType s => SailKind.unknownMessage s
  | .forceScaling s => ForceScaling.unknownMessage s
  | .heelPolicy s => HeelPolicy.unknownMessage s
  | .invalid e => e.message

/-- The checked parameters of boat settings stepped every `timeStep` seconds. -/
def BoatSettings.toParams (b : BoatSettings) (timeStep : Float) :
    Except BoatError (Params Float) := do
  let some kind := SailKind.parse? b.sailType | throw (.sailType b.sailType)
  let some scaling := ForceScaling.parse? b.forceScaling | throw (.forceScaling b.forceScaling)
  let some policy := HeelPolicy.parse? b.heel.policy | throw (.heelPolicy b.heel.policy)
  let d : Params Float := Params.default
  let p : Params Float := { d with
    frame := if b.frame == "" then d.frame else b.frame
    timeStep := timeStep
    rig := ⟨kind, scaling, b.sailArea, b.airDensity⟩
    steering := ⟨b.steeringAngleMax, b.turningCircle⟩
    heelPolicy := policy
    heelAngleGain := b.heel.angleGain
    keel := ⟨b.heel.centerOfEffort, b.heel.keelMass, b.heel.keelDepth, b.heel.keelChord,
      b.heel.damping, standardGravity⟩
    waveGains := ⟨b.waveGains.angle, b.waveGains.heave⟩
    mass := b.mass
    hullDrag := b.hullDrag
    throttleGain := b.throttleGain }
  match p.validate with
  | .ok p => pure p
  | .error e => throw (.invalid e)

/-- The environment's settings. -/
structure EnvironmentSettings where
  windSpeed : Float := 0
  windDirection : Float := 0
  gustAmplitude : Float := 0
  gustPeriod : Float := 0
  tideSpeed : Float := 0
  tideDirection : Float := 0
  waveEnable : Int := 0
  waveAmplitude : Float := 0.5
  waveLength : Float := 10
  waveSpeed : Float := 2
  waveDirection : Float := 0
  armed : Bool := true
  /-- `"lon,lat[,alt]"`. -/
  home : String := "149.165230,-35.363261,584"
  startTime : Instant := Civil.toInstant ⟨2024, 6, 1, 0, 0, 0, 0⟩ 0

/-- The environment the settings describe. -/
def EnvironmentSettings.toConfig (e : EnvironmentSettings) : EnvConfig Float :=
  ⟨e.windSpeed, e.windDirection, e.gustAmplitude, e.gustPeriod, e.tideSpeed, e.tideDirection,
    ⟨⟨e.waveEnable⟩, e.waveAmplitude, e.waveLength, e.waveSpeed, e.waveDirection⟩, e.armed⟩

/-- Why a simulation cannot be set up from settings. -/
inductive SetupError where
  | boat (e : BoatError)
  /-- The home text is not a position. -/
  | home (text : String)
  | params (e : ParamError Float)

/-- The message of a setup error. -/
def SetupError.message : SetupError → String
  | .boat e => "boat config: " ++ e.message
  | .home s => "home " ++ Text.quote s ++ ": " ++ Geodetic.invalidMessage
  | .params e => e.message

/-- A position fix from a locator. -/
def Locator.fix (l : Locator) : GeoFix Float := ⟨l.offset, l.location⟩

end SailSim
