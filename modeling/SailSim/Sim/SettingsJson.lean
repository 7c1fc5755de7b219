import SailSim.Sim.Settings
import SailSim.Json.Instant

/-!
# Settings in JSON

Boat and environment settings are read from JSON objects member by member onto their
defaults, by the rules of `Json.Decoder`. The boat's settings are named as in the
configuration file (`sailType`, `heel`, …); the environment's are named after their fields
(`WindSpeed`, `Home`, `StartTime`, …), matched ignoring case.
-/

namespace SailSim

open Json.Decoder

/-- The members of the heel settings. -/
def HeelSettings.fields : List (Json.Decoder.Field HeelSettings) := [
  field "policy" (·.policy) (fun s v => { s with policy := v }) string,
  field "angleGain" (·.angleGain) (fun s v => { s with angleGain := v }) float,
  field "centerOfEffort" (·.centerOfEffort) (fun s v => { s with centerOfEffort := v }) float,
  field "keelMass" (·.keelMass) (fun s v => { s with keelMass := v }) float,
  field "keelDepth" (·.keelDepth) (fun s v => { s with keelDepth := v }) float,
  field "keelChord" (·.keelChord) (fun s v => { s with keelChord := v }) float,
  field "damping" (·.damping) (fun s v => { s with damping := v }) float]

/-- The members of the swell gain settings. -/
def WaveGainSettings.fields : List (Json.Decoder.Field WaveGainSettings) := [
  field "angle" (·.angle) (fun s v => { s with angle := v }) float,
  field "heave" (·.heave) (fun s v => { s with heave := v }) float]

/-- The members of the boat settings: each setting under its name. -/
def BoatSettings.fields : List (Json.Decoder.Field BoatSettings) := [
  field "frame" (·.frame) (fun s v => { s with frame := v }) string,
  field "sailType" (·.sailType) (fun s v => { s with sailType := v }) string,
  field "forceScaling" (·.forceScaling) (fun s v => { s with forceScaling := v }) string,
  field "sailArea" (·.sailArea) (fun s v => { s with sailArea := v }) float,
  field "airDensity" (·.airDensity) (fun s v => { s with airDensity := v }) float,
  field "mass" (·.mass) (fun s v => { s with mass := v }) float,
  field "steeringAngleMax" (·.steeringAngleMax) (fun s v => { s with steeringAngleMax := v }) float,
  field "turningCircle" (·.turningCircle) (fun s v => { s with turningCircle := v }) float,
  field "hullDrag" (·.hullDrag) (fun s v => { s with hullDrag := v }) float,
  field "throttleGain" (·.throttleGain) (fun s v => { s with throttleGain := v }) float,
  field "Heel" (·.heel) (fun s v => { s with heel := v }) (record "config.HeelConfig" HeelSettings.fields),
  field "WaveGains" (·.waveGains) (fun s v => { s with waveGains := v })
    (record "config.WaveGainConfig" WaveGainSettings.fields)]

/-- The members of the environment settings, under the names of their fields. -/
def EnvironmentSettings.fields : List (Json.Decoder.Field EnvironmentSettings) := [
  field "WindSpeed" (·.windSpeed) (fun s v => { s with windSpeed := v }) float,
  field "WindDirection" (·.windDirection) (fun s v => { s with windDirection := v }) float,
  field "GustAmplitude" (·.gustAmplitude) (fun s v => { s with gustAmplitude := v }) float,
  field "GustPeriod" (·.gustPeriod) (fun s v => { s with gustPeriod := v }) float,
  field "TideSpeed" (·.tideSpeed) (fun s v => { s with tideSpeed := v }) float,
  field "TideDirection" (·.tideDirection) (fun s v => { s with tideDirection := v }) float,
  field "WaveEnable" (·.waveEnable) (fun s v => { s with waveEnable := v }) int,
  field "WaveAmplitude" (·.waveAmplitude) (fun s v => { s with waveAmplitude := v }) float,
  field "WaveLength" (·.waveLength) (fun s v => { s with waveLength := v }) float,
  field "WaveSpeed" (·.waveSpeed) (fun s v => { s with waveSpeed := v }) float,
  field "WaveDirection" (·.waveDirection) (fun s v => { s with waveDirection := v }) float,
  field "Armed" (·.armed) (fun s v => { s with armed := v }) bool,
  field "Home" (·.home) (fun s v => { s with home := v }) string,
  field "StartTime" (·.startTime) (fun s v => { s with startTime := v }) instant]

/-- Reads boat settings onto the values already there. -/
def BoatSettings.reader : Json.Decoder BoatSettings := record "config.BoatConfig" BoatSettings.fields

/-- Reads environment settings onto the values already there. -/
def EnvironmentSettings.reader : Json.Decoder EnvironmentSettings :=
  record "config.EnvironmentConfig" EnvironmentSettings.fields

end SailSim
