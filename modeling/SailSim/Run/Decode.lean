import SailSim.Run.Basic
import SailSim.Json.Instant
import SailSim.Json.Marshal

/-!
# Reading run records from JSON

Decoders for the JSON forms that `Run.toJson`, `StepSample.toJson` and `RunSummary.toJson`
write, with the general rules of `Json.Decoder`: members matched by name ignoring case, unknown
members ignored, `null` leaving a field alone. The sixteen servo channels are read from a list
of which only the first sixteen items count; a shorter list sets the remaining channels to
zero. A configuration is read as a generic map.
-/

namespace SailSim.Json.Decoder

/-- A whole number of at most 64 bits, for a field of type `typeName`. -/
def word (typeName : String) : Decoder Nat := fun cur place j =>
  match intIn typeName 0 (Int.pow 2 64 - 1) cur place j with
  | .ok (n, e) => .ok (n.toNat, e)
  | .error e => .error e

/-- A list of exactly `n` items: the first `n` items are read, missing ones are `zero`. -/
def fixed {α : Type} (n : Nat) (typeName : String) (d : Decoder α) (zero : α) :
    Decoder (List α) := fun cur place j =>
  match j with
  | .null => .ok (cur, none)
  | .array xs => do
    let (vs, e) ← items d zero place 0 (xs.take n)
    pure (vs ++ List.replicate (n - vs.length) zero, e)
  | _ => mismatch cur place typeName j

/-- A generic value: numbers become binary64 floats, objects sorted maps. -/
def genericValue : Decoder Json := fun _ _ j =>
  match Json.generic j with
  | .ok v => .ok (v, none)
  | .error e => .error (.other e)

/-- A generic map; `null` clears it. -/
def genericMap (typeName : String) : Decoder (List (String × Json)) := fun cur place j =>
  match j with
  | .null => .ok ([], none)
  | .object ms =>
    match Json.generic (.object (cur ++ ms)) with
    | .ok (.object kept) => .ok (kept, none)
    | .ok _ => .ok (cur, none)
    | .error e => .error (.other e)
  | _ => mismatch cur place typeName j

/-- A position. -/
def geodetic : Decoder (Geodetic Float) := record "core.Geodetic" [
  field "lat" (·.lat) (fun g x => { g with lat := x }) float,
  field "lon" (·.lon) (fun g x => { g with lon := x }) float,
  field "alt" (·.alt) (fun g x => { g with alt := x }) float]

/-- An attitude. -/
def euler : Decoder (Euler Float) := record "core.Attitude" [
  field "roll" (·.roll) (fun e x => { e with roll := x }) float,
  field "pitch" (·.pitch) (fun e x => { e with pitch := x }) float,
  field "yaw" (·.yaw) (fun e x => { e with yaw := x }) float]

/-- A vector. -/
def vec3 : Decoder (Vec3 Float) := record "core.Vector3" [
  field "x" (·.x) (fun v a => { v with x := a }) float,
  field "y" (·.y) (fun v a => { v with y := a }) float,
  field "z" (·.z) (fun v a => { v with z := a }) float]

/-- A command of sixteen channels. -/
def controls : Decoder Controls := record "core.ControlInput" [
  field "servos" Controls.toList (fun _ vs => Controls.ofList vs) (fixed 16 "[16]uint16" uint16 0)]

/-- A vehicle state. -/
def vehicleState : Decoder (VehicleState Float) := record "core.VehicleState" [
  field "timeUs" (·.timeUs.toNat) (fun s n => { s with timeUs := UInt64.ofNat n }) uint64,
  field "attitude" (·.attitude) (fun s x => { s with attitude := x }) euler,
  field "gyro" (·.gyro) (fun s x => { s with gyro := x }) vec3,
  field "accelBody" (·.accelBody) (fun s x => { s with accelBody := x }) vec3,
  field "velocityWater" (·.velocityWater) (fun s x => { s with velocityWater := x }) vec3,
  field "velocity" (·.velocity) (fun s x => { s with velocity := x }) vec3,
  field "position" (·.position) (fun s x => { s with position := x }) vec3,
  field "location" (·.location) (fun s x => { s with location := x }) geodetic,
  field "magBody" (·.magBody) (fun s x => { s with magBody := x }) vec3,
  field "airspeed" (·.airspeed) (fun s x => { s with airspeed := x }) float,
  field "rpm" (·.rpm) (fun s x => { s with rpm := x }) float]

/-- A sample. -/
def stepSample : Decoder StepSample := record "core.StepSample" [
  field "runId" (·.runId) (fun s x => { s with runId := x }) string,
  field "step" (·.step) (fun s x => { s with step := x }) uint64,
  field "simTime" (·.simTime) (fun s x => { s with simTime := x }) float,
  field "wallTime" (·.wallTime) (fun s x => { s with wallTime := x }) instant,
  field "input" (·.input) (fun s x => { s with input := x }) controls,
  field "state" (·.state) (fun s x => { s with state := x }) vehicleState,
  field "windSpeed" (·.windSpeed) (fun s x => { s with windSpeed := x }) float,
  field "windAngle" (·.windAngle) (fun s x => { s with windAngle := x }) float,
  field "sailAngle" (·.sailAngle) (fun s x => { s with sailAngle := x }) float,
  field "forceFwd" (·.forceFwd) (fun s x => { s with forceFwd := x }) float,
  field "forceHeel" (·.forceHeel) (fun s x => { s with forceHeel := x }) float,
  field "wavePhase" (·.wavePhase) (fun s x => { s with wavePhase := x }) float,
  field "waveHeave" (·.waveHeave) (fun s x => { s with waveHeave := x }) float,
  field "rollRate" (·.rollRate) (fun s x => { s with rollRate := x }) float]

/-- A run. -/
def runRecord : Decoder Run := record "core.Run" [
  field "id" (·.id) (fun r x => { r with id := x }) (word "uint"),
  field "uuid" (·.uuid) (fun r x => { r with uuid := x }) string,
  field "name" (·.name) (fun r x => { r with name := x }) string,
  field "frame" (·.frame) (fun r x => { r with frame := x }) string,
  field "startTime" (·.startTime) (fun r x => { r with startTime := x }) instant,
  field "timeStep" (·.timeStep) (fun r x => { r with timeStep := x }) float,
  field "duration" (·.duration) (fun r x => { r with duration := x }) float,
  field "home" (·.home) (fun r x => { r with home := x }) geodetic,
  field "config" (·.config) (fun r x => { r with config := x })
    (genericMap "map[string]interface \x7b\x7d")]

/-- A summary. -/
def runSummary : Decoder RunSummary := record "core.RunSummary" [
  field "runId" (·.runId) (fun s x => { s with runId := x }) string,
  field "steps" (·.steps) (fun s x => { s with steps := x }) uint64,
  field "simTime" (·.simTime) (fun s x => { s with simTime := x }) float,
  field "distance" (·.distance) (fun s x => { s with distance := x }) float,
  field "trackLength" (·.trackLength) (fun s x => { s with trackLength := x }) float,
  field "maxSpeed" (·.maxSpeed) (fun s x => { s with maxSpeed := x }) float,
  field "final" (·.final) (fun s x => { s with final := x }) geodetic,
  field "cancelled" (·.cancelled) (fun s x => { s with cancelled := x }) bool]

/-- An optional record: `null` clears it, a value is read over the present one or over
`zero`. -/
def optional {α : Type} (zero : α) (d : Decoder α) : Decoder (Option α) := fun cur place j =>
  match j with
  | .null => .ok (none, none)
  | _ => do
    let (a, e) ← d (cur.getD zero) place j
    pure (some a, e)

end SailSim.Json.Decoder
