import SailSim.Run.Basic
import SailSim.Json.Marshal

/-!
# Run records in JSON

The JSON forms of positions, attitudes, vectors, commands, vehicle states, samples, runs and
summaries, with their members in the order of the records' fields. Times are written in
RFC 3339 with the fraction of a second they need and their zone offset; a year outside
`0…9999`, or a zone offset of a day or more, has no such form. `StepPayload` is the short form
of a sample that a live viewer receives.
-/

namespace SailSim

open Json

/-- A time in RFC 3339, refused outside the years 0 to 9999 and in a zone a day or more away
from UTC. -/
def Instant.toJson (t : Instant) : Encoded :=
  let y := t.toCivil.year
  if y < 0 || y > 9999 then .error "json: error calling MarshalJSON for type time.Time: Time.MarshalJSON: year outside of range [0,9999]"
  else if t.offset.natAbs ≥ 86400 then .error "json: error calling MarshalJSON for type time.Time: Time.MarshalJSON: timezone hour outside of range [0,23]"
  else .ok (.string t.format)

/-- `{"lat", "lon", "alt"}`. -/
def Geodetic.toJson (g : Geodetic Float) : Encoded :=
  members [("lat", finite g.lat), ("lon", finite g.lon), ("alt", finite g.alt)]

/-- `{"roll", "pitch", "yaw"}`. -/
def Euler.toJson (e : Euler Float) : Encoded :=
  members [("roll", finite e.roll), ("pitch", finite e.pitch), ("yaw", finite e.yaw)]

/-- `{"x", "y", "z"}`. -/
def Vec3.toJson (v : Vec3 Float) : Encoded :=
  members [("x", finite v.x), ("y", finite v.y), ("z", finite v.z)]

/-- `{"servos": [16 pulse widths]}`. -/
def Controls.toJson (c : Controls) : Encoded :=
  .ok (.object [("servos", .array (c.toList.map fun v => Json.nat v.toNat))])

/-- The vehicle state. -/
def VehicleState.toJson (v : VehicleState Float) : Encoded :=
  members [("timeUs", .ok (Json.nat v.timeUs.toNat)), ("attitude", v.attitude.toJson),
    ("gyro", v.gyro.toJson), ("accelBody", v.accelBody.toJson),
    ("velocityWater", v.velocityWater.toJson), ("velocity", v.velocity.toJson),
    ("position", v.position.toJson), ("location", v.location.toJson),
    ("magBody", v.magBody.toJson), ("airspeed", finite v.airspeed), ("rpm", finite v.rpm)]

/-- A sample. -/
def StepSample.toJson (s : StepSample) : Encoded :=
  members [("runId", .ok (.string s.runId)), ("step", .ok (Json.nat s.step)),
    ("simTime", finite s.simTime), ("wallTime", s.wallTime.toJson), ("input", s.input.toJson),
    ("state", s.state.toJson), ("windSpeed", finite s.windSpeed),
    ("windAngle", finite s.windAngle), ("sailAngle", finite s.sailAngle),
    ("forceFwd", finite s.forceFwd), ("forceHeel", finite s.forceHeel),
    ("wavePhase", finite s.wavePhase), ("waveHeave", finite s.waveHeave),
    ("rollRate", finite s.rollRate)]

/-- A run; the configuration is left out when empty. -/
def Run.toJson (r : Run) : Encoded :=
  members ([("id", .ok (Json.nat r.id)), ("uuid", .ok (.string r.uuid)),
    ("name", .ok (.string r.name)), ("frame", .ok (.string r.frame)),
    ("startTime", r.startTime.toJson), ("timeStep", finite r.timeStep),
    ("duration", finite r.duration), ("home", r.home.toJson)] ++
    (if r.config.isEmpty then [] else [("config", .ok (.object (mapMembers r.config)))]))

/-- A summary. -/
def RunSummary.toJson (s : RunSummary) : Encoded :=
  members [("runId", .ok (.string s.runId)), ("steps", .ok (Json.nat s.steps)),
    ("simTime", finite s.simTime), ("distance", finite s.distance),
    ("trackLength", finite s.trackLength), ("maxSpeed", finite s.maxSpeed),
    ("final", s.final.toJson), ("cancelled", .ok (.bool s.cancelled))]

/-- What a live viewer receives of a sample. -/
structure StepPayload where
  step : Nat
  t : Float
  loc : Geodetic Float
  att : Euler Float
  /-- Horizontal speed over ground. -/
  spd : Float
  /-- Apparent wind speed. -/
  aws : Float
  /-- Apparent wind angle. -/
  awa : Float
  sail : Float

/-- The viewer's form of a sample. -/
def StepPayload.ofSample (s : StepSample) : StepPayload :=
  ⟨s.step, s.simTime, s.state.location, s.state.attitude,
    s.state.velocity.horizontalLength, s.windSpeed, s.windAngle, s.sailAngle⟩

/-- `{"step", "t", "loc", "att", "spd", "aws", "awa", "sail"}`. -/
def StepPayload.toJson (p : StepPayload) : Encoded :=
  members [("step", .ok (Json.nat p.step)), ("t", finite p.t), ("loc", p.loc.toJson),
    ("att", p.att.toJson), ("spd", finite p.spd), ("aws", finite p.aws), ("awa", finite p.awa),
    ("sail", finite p.sail)]

end SailSim
