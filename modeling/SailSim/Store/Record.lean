import SailSim.Run.Json
import SailSim.Geo.Track
import SailSim.Uuid

/-!
# Stored runs and samples

How a run database holds runs and samples: a run keeps its UUID as sixteen bytes, its home
as a three-dimensional point (longitude, latitude, altitude) made and read by the geometry
library the program links, a parameter here (`PointLibrary`), its configuration as JSON text
(`{}` when there is none), the track written when it ends, and the summary as flat columns
with a flag that the run has ended. A sample keeps the four channels the boat reads and its
vectors as columns; the other servo channels, the motor speed and the clock are not stored.

`StoredRun.ofRun` and `StoredRun.toRun` convert between a run and its stored form;
`StoredSample.ofSample` and `StoredSample.toSample` do the same for samples.
-/

namespace SailSim.Store

open Json

/-- A point with longitude, latitude and altitude, or the empty point. -/
structure Point where
  coords : Option (Float × Float × Float)
  deriving Repr, BEq

/-- How points are made and read: the point the geometry library builds of a longitude,
latitude and altitude, and the coordinates it reads from a point, none from the empty one. -/
structure PointLibrary where
  /-- The point of three coordinates. -/
  ofXYZ : Float × Float × Float → Point
  /-- The coordinates of a point. -/
  coordinates : Point → Option (Float × Float × Float)

namespace PointLibrary

/-- A point gives back the coordinates it was built with. -/
def KeepsCoordinates (lib : PointLibrary) : Prop :=
  ∀ v, lib.coordinates (lib.ofXYZ v) = some v

/-- The points the program runs with. -/
def standard : PointLibrary := ⟨fun v => ⟨some v⟩, Point.coords⟩

theorem standard_keepsCoordinates : standard.KeepsCoordinates := fun _ => rfl

end PointLibrary

namespace Point

/-- The point of a geodetic position. -/
def ofGeodetic (g : Geodetic Float) (lib : PointLibrary := .standard) : Point :=
  lib.ofXYZ (g.lon, g.lat, g.alt)

/-- The position of a point; the empty point gives zeros. -/
def toGeodetic (p : Point) (lib : PointLibrary := .standard) : Geodetic Float :=
  match lib.coordinates p with
  | some (x, y, z) => ⟨y, x, z⟩
  | none => ⟨0, 0, 0⟩

/-- The well-known text of the point. -/
def wkt (p : Point) : String :=
  match p.coords with
  | some (x, y, z) => "POINT Z (" ++ Geo.LineString.coordinate x ++ " " ++
      Geo.LineString.coordinate y ++ " " ++ Geo.LineString.coordinate z ++ ")"
  | none => "POINT Z EMPTY"

end Point

/-- The summary columns of a stored run. -/
structure StoredSummary where
  ended : Bool := false
  cancelled : Bool := false
  steps : Nat := 0
  simTime : Float := 0
  distance : Float := 0
  trackLength : Float := 0
  maxSpeed : Float := 0
  finalLat : Float := 0
  finalLon : Float := 0
  finalAlt : Float := 0
  deriving Repr

/-- A stored run. -/
structure StoredRun where
  id : Nat := 0
  uuid : Uuid
  name : String := ""
  frame : String := ""
  startTime : Instant := Instant.zero
  timeStep : Float := 0
  duration : Float := 0
  home : Point := ⟨none⟩
  /-- The configuration as JSON text. -/
  config : String := "{}"
  track : Geo.LineString := ⟨#[]⟩
  summary : StoredSummary := {}

/-- The four stored servo channels. -/
structure StoredServos where
  steering : UInt16 := 0
  throttle : UInt16 := 0
  mainsail : UInt16 := 0
  wing : UInt16 := 0
  deriving Repr, BEq

/-- A stored sample. -/
structure StoredSample where
  id : Nat := 0
  runId : Nat
  step : Nat
  simTime : Float
  wallTime : Instant
  position : Point
  offset : Vec3 Float
  velocity : Vec3 Float
  water : Vec3 Float
  gyro : Vec3 Float
  accel : Vec3 Float
  mag : Vec3 Float
  attitude : Euler Float
  servos : StoredServos
  airspeed : Float
  windSpeed : Float
  windAngle : Float
  sailAngle : Float
  forceFwd : Float
  forceHeel : Float
  wavePhase : Float
  waveHeave : Float
  rollRate : Float

/-- The JSON text of a configuration: `{}` when empty, else the sorted map. -/
def configText (cfg : List (String × Json)) : Except String String :=
  if cfg.isEmpty then .ok "{}" else .ok (Json.compact (.object (mapMembers cfg)))

/-- The configuration a stored text holds; text that is not an object gives none. -/
def configOfText (text : String) : List (String × Json) :=
  match Json.parse text with
  | .ok j => match generic j with
    | .ok (.object ms) => ms
    | _ => []
  | .error _ => []

namespace StoredRun

/-- The stored form of a run, its home made a point by `points`. A run without a UUID takes
`fresh`; an unreadable UUID is an error. -/
def ofRun (r : Run) (fresh : Uuid) (points : PointLibrary := .standard) :
    Except String StoredRun := do
  let uuid ← if r.uuid.isEmpty then pure fresh
    else (Uuid.parse r.uuid).mapError fun e => "run uuid: " ++ e.message
  let config ← configText r.config
  pure { id := r.id, uuid, name := r.name, frame := r.frame, startTime := r.startTime,
         timeStep := r.timeStep, duration := r.duration, home := Point.ofGeodetic r.home points,
         config }

/-- The run a stored run describes, its home read by `points`. -/
def toRun (r : StoredRun) (points : PointLibrary := .standard) : Run :=
  { id := r.id, uuid := r.uuid.toString, name := r.name, frame := r.frame,
    startTime := r.startTime, timeStep := r.timeStep, duration := r.duration,
    home := r.home.toGeodetic points, config := configOfText r.config }

/-- The summary of a stored run, once it has ended. -/
def summary? (r : StoredRun) : Option RunSummary :=
  if !r.summary.ended then none
  else
    let s := r.summary
    some { runId := r.uuid.toString, steps := s.steps, simTime := s.simTime,
           distance := s.distance, trackLength := s.trackLength, maxSpeed := s.maxSpeed,
           final := ⟨s.finalLat, s.finalLon, s.finalAlt⟩, cancelled := s.cancelled }

end StoredRun

/-- The stored columns of a summary, marked ended. -/
def RunSummary.toStored (s : RunSummary) : StoredSummary :=
  { ended := true, cancelled := s.cancelled, steps := s.steps, simTime := s.simTime,
    distance := s.distance, trackLength := s.trackLength, maxSpeed := s.maxSpeed,
    finalLat := s.final.lat, finalLon := s.final.lon, finalAlt := s.final.alt }

namespace StoredSample

/-- The stored form of a sample of the stored run `runId`, its position made a point by
`points`. -/
def ofSample (runId : Nat) (s : StepSample) (points : PointLibrary := .standard) : StoredSample :=
  let st := s.state
  { runId, step := s.step, simTime := s.simTime, wallTime := s.wallTime,
    position := Point.ofGeodetic st.location points, offset := st.position,
    velocity := st.velocity,
    water := st.velocityWater, gyro := st.gyro, accel := st.accelBody, mag := st.magBody,
    attitude := st.attitude,
    servos := ⟨s.input.get Controls.steeringChannel, s.input.get Controls.throttleChannel,
      s.input.get Controls.mainsailChannel, s.input.get Controls.wingChannel⟩,
    airspeed := st.airspeed, windSpeed := s.windSpeed, windAngle := s.windAngle,
    sailAngle := s.sailAngle, forceFwd := s.forceFwd, forceHeel := s.forceHeel,
    wavePhase := s.wavePhase, waveHeave := s.waveHeave, rollRate := s.rollRate }

/-- The sample a stored sample describes, of the run `runUuid`, its position read by
`points`. -/
def toSample (runUuid : String) (m : StoredSample) (points : PointLibrary := .standard) :
    StepSample :=
  let input := ((((Controls.zero.set Controls.steeringChannel m.servos.steering).set
    Controls.throttleChannel m.servos.throttle).set Controls.mainsailChannel
    m.servos.mainsail).set Controls.wingChannel m.servos.wing)
  { runId := runUuid, step := m.step, simTime := m.simTime, wallTime := m.wallTime, input,
    state := {
      timeUs := 0, attitude := m.attitude, gyro := m.gyro, accelBody := m.accel,
      velocityWater := m.water, velocity := m.velocity, position := m.offset,
      location := m.position.toGeodetic points, magBody := m.mag, airspeed := m.airspeed,
      rpm := 0 },
    windSpeed := m.windSpeed, windAngle := m.windAngle, sailAngle := m.sailAngle,
    forceFwd := m.forceFwd, forceHeel := m.forceHeel, wavePhase := m.wavePhase,
    waveHeave := m.waveHeave, rollRate := m.rollRate }

end StoredSample

/-- The longitude/latitude track of stored samples, in their order. -/
def trackOfSamples (ms : List StoredSample) : Geo.LineString :=
  (ms.foldl (fun t m => t.add m.offset m.position.toGeodetic) ({} : Geo.Track)).lineString

end SailSim.Store
