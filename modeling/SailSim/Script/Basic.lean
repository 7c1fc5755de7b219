import SailSim.Json.Fields
import SailSim.Json.Write
import SailSim.Json.Instant
import SailSim.Run.Basic
import SailSim.Json.Marshal

/-!
# Scripts: driving a component by JSON requests

A script is a JSON request that names a component and a list of commands for it; the
component runs the commands in order and answers each, and the request's answer collects
them. This module holds what every script shares:

* `Outcome`: a request that fails, with the kind of failure and its message. A malformed
  request is `bad_input`; an error the component reports inside a list of answers is an
  error object `{"error": kind, "message": text}` instead (`errorReply`).
* Encoders for the records the components exchange, floats written in the shortest form
  that reads back, and `NaN`, `+Inf`, `-Inf` by name.
* Readers for request members: a float may also be given by name, and a vector is a list of
  up to three floats, missing ones zero.
-/

namespace SailSim.Script

open Json

/-- A result, or the kind and message of the failure that stopped the request. -/
abbrev Outcome := Except (String × String)

/-- Stops the request with a failure of kind `kind`. -/
def fail {α : Type} (kind message : String) : Outcome α := .error (kind, message)

/-- Stops a malformed request. -/
def badInput {α : Type} (message : String) : Outcome α := fail "bad_input" message

/-- A request member that could not be decoded makes the request malformed. -/
def lift {α : Type} (r : Except DecodeError α) : Outcome α :=
  r.mapError fun e => ("bad_input", e.message)

/-! ### Encoding -/

/-- A float; non-finite values by name. -/
def num (x : Float) : Json := if x.isNaN || x.isInf then .string (jsonFloat.render x) else Json.float x

/-- An error answer inside a list of answers. -/
def errorReply (kind message : String) : Json :=
  .object [("error", .string kind), ("message", .string message)]

/-- A vector as three floats. -/
def vec (v : Vec3 Float) : Json := .array [num v.x, num v.y, num v.z]

/-- An attitude as roll, pitch and yaw. -/
def euler (e : Euler Float) : Json := .array [num e.roll, num e.pitch, num e.yaw]

/-- A geodetic position. -/
def geodetic (g : Geodetic Float) : Json :=
  .object [("lat", num g.lat), ("lon", num g.lon), ("alt", num g.alt)]

/-- The servo outputs, all sixteen. -/
def controls (c : Controls) : Json := .array (c.toList.map (Json.nat ·.toNat))

/-- The state a boat reports. -/
def vehicleState (v : VehicleState Float) : Json :=
  .object [("timeUs", Json.nat v.timeUs.toNat), ("attitude", euler v.attitude),
    ("gyro", vec v.gyro), ("accelBody", vec v.accelBody), ("velocityWater", vec v.velocityWater),
    ("velocity", vec v.velocity), ("position", vec v.position), ("location", geodetic v.location),
    ("magBody", vec v.magBody), ("airspeed", num v.airspeed), ("rpm", num v.rpm)]

/-- A sample of a run. -/
def stepSample (x : StepSample) : Json :=
  .object [("runId", .string x.runId), ("step", Json.nat x.step), ("simTime", num x.simTime),
    ("input", controls x.input), ("state", vehicleState x.state), ("windSpeed", num x.windSpeed),
    ("windAngle", num x.windAngle), ("sailAngle", num x.sailAngle), ("forceFwd", num x.forceFwd),
    ("forceHeel", num x.forceHeel), ("wavePhase", num x.wavePhase),
    ("waveHeave", num x.waveHeave), ("rollRate", num x.rollRate)]

/-- The summary of a run. -/
def runSummary (sm : RunSummary) : Json :=
  .object [("runId", .string sm.runId), ("steps", Json.nat sm.steps), ("simTime", num sm.simTime),
    ("distance", num sm.distance), ("trackLength", num sm.trackLength),
    ("maxSpeed", num sm.maxSpeed), ("final", geodetic sm.final), ("cancelled", .bool sm.cancelled)]

/-! ### Decoding -/

/-- A float: a number, or one of the names `NaN`, `Inf`, `+Inf`, `-Inf`. -/
def floatOrName : Decoder Float := fun c p j =>
  match j with
  | .string "NaN" => .ok (0.0 / 0.0, none)
  | .string "Inf" | .string "+Inf" => .ok (1.0 / 0.0, none)
  | .string "-Inf" => .ok (-1.0 / 0.0, none)
  | .string s => .error (.other ("bad float " ++ Text.quote s))
  | _ => Decoder.float c p j

/-- A vector: up to three floats, missing ones zero; `null` keeps the current one. -/
def vector : Decoder (Vec3 Float) := fun c p j =>
  match j with
  | .null => .ok (c, none)
  | .array xs => do
    let (vs, e) ← Decoder.items floatOrName 0 p 0 (xs.take 3)
    pure (⟨vs.getD 0 0, vs.getD 1 0, vs.getD 2 0⟩, e)
  | _ => Decoder.mismatch c p "main.V3" j

end SailSim.Script

namespace SailSim.Json.Fields

open Script

/-- Member `k` decoded by `dec`; missing gives `z`. -/
def decode {α : Type} (s : Fields) (dec : Decoder α) (z : α) (k : String) : Outcome α :=
  lift (s.read dec z k)

/-- Member `k` decoded by `dec`, or nothing when missing or `null`. -/
def decode? {α : Type} [Inhabited α] (s : Fields) (dec : Decoder α) (k : String) :
    Outcome (Option α) :=
  lift (s.read? dec k)

/-- A float member; missing gives `z`. -/
def float (s : Fields) (k : String) (z : Float := 0) : Outcome Float := s.decode floatOrName z k

/-- A vector member. -/
def vec3 (s : Fields) (k : String) : Outcome (Vec3 Float) := s.decode vector Vec3.zero k

/-- An integer member; missing gives `z`. -/
def integer (s : Fields) (k : String) (z : Int := 0) : Outcome Int := s.decode Decoder.int z k

/-- A text member. -/
def text (s : Fields) (k : String) : Outcome String := s.decode Decoder.string "" k

/-- A flag member; missing gives `z`. -/
def flag (s : Fields) (k : String) (z : Bool := false) : Outcome Bool := s.decode Decoder.bool z k

/-- An unsigned 64-bit member. -/
def count (s : Fields) (k : String) : Outcome Nat := s.decode Decoder.uint64 0 k

/-- An attitude member, given as a vector. -/
def attitude (s : Fields) (k : String) : Outcome (Euler Float) := do
  let v ← s.vec3 k
  pure ⟨v.x, v.y, v.z⟩

/-- An object member read as a record of type `typeName`. -/
def record (s : Fields) (k typeName : String) : Outcome Fields := lift (s.sub k typeName)

/-- A list member of records of type `typeName`. -/
def records (s : Fields) (k typeName : String) : Outcome (List Fields) := lift (s.items k typeName)

/-- A list of floats. -/
def floats (s : Fields) (k : String) : Outcome (List Float) :=
  s.decode (Decoder.list "[]main.F" floatOrName 0) [] k

/-- A list of integers. -/
def integers (s : Fields) (k : String) : Outcome (List Int) :=
  s.decode (Decoder.list "[]int" Decoder.int 0) [] k

/-- A list of vectors. -/
def vectors (s : Fields) (k : String) : Outcome (List (Vec3 Float)) :=
  s.decode (Decoder.list "[]main.V3" vector Vec3.zero) [] k

/-- A geodetic position member. -/
def geodetic (s : Fields) (k : String) : Outcome (Geodetic Float) := do
  let g ← s.record k "core.Geodetic"
  pure ⟨← g.float "lat", ← g.float "lon", ← g.float "alt"⟩

/-- Servo outputs: at most 16 values in `0 ..= 65535`, missing channels zero. -/
def servos (s : Fields) (k : String) : Outcome Controls := do
  let vs ← s.integers k
  if vs.length > 16 then badInput "more than 16 servo values" else
  for (v, i) in vs.zipIdx do
    if v < 0 || v > 65535 then badInput s!"servo {i} value {v} out of uint16 range"
  pure (Controls.ofList (vs.map fun v => UInt16.ofNat v.toNat))

/-- A run: its configuration must be an object; an empty or missing start is the zero time. -/
def run (s : Fields) : Outcome Run := do
  let cfg ← match s.get? "config" with
    | none | some .null => pure []
    | some j => match Json.generic j with
      | .ok (.object ms) => pure ms
      | .ok _ => badInput "config: not an object"
      | .error e => badInput e
  let start ← match s.get? "startTime" with
    | none | some .null | some (.string "") => pure Instant.zero
    | some _ => s.decode Decoder.instant Instant.zero "startTime"
  pure {
    id := ← s.count "id", uuid := ← s.text "uuid", name := ← s.text "name",
    frame := ← s.text "frame", startTime := start, timeStep := ← s.float "timeStep",
    duration := ← s.float "duration", home := ← s.geodetic "home", config := cfg }

/-- The summary of a run. -/
def summary (s : Fields) : Outcome RunSummary := do
  pure {
    runId := ← s.text "runId", steps := ← s.count "steps", simTime := ← s.float "simTime",
    distance := ← s.float "distance", trackLength := ← s.float "trackLength",
    maxSpeed := ← s.float "maxSpeed", final := ← s.geodetic "final",
    cancelled := ← s.flag "cancelled" }

/-- The summary in member `summary`, if it is given and not `null`. -/
def summary? (e : Fields) : Outcome (Option RunSummary) := do
  if e.absent "summary" then pure none else some <$> (← e.record "summary" "main.SummarySpec").summary

/-- A sample of run `runId`. -/
def sample (s : Fields) (runId : String) : Outcome StepSample := do
  pure {
    runId, step := ← s.count "step", simTime := ← s.float "simTime", input := ← s.servos "servos",
    state := {
      timeUs := 0, attitude := ← s.attitude "attitude", gyro := ← s.vec3 "gyro",
      accelBody := ← s.vec3 "accelBody", velocityWater := ← s.vec3 "velocityWater",
      velocity := ← s.vec3 "velocity", position := ← s.vec3 "position",
      location := ← s.geodetic "location", magBody := ← s.vec3 "magBody",
      airspeed := ← s.float "airspeed", rpm := ← s.float "rpm" }
    windSpeed := ← s.float "windSpeed", windAngle := ← s.float "windAngle",
    sailAngle := ← s.float "sailAngle", forceFwd := ← s.float "forceFwd",
    forceHeel := ← s.float "forceHeel", wavePhase := ← s.float "wavePhase",
    waveHeave := ← s.float "waveHeave", rollRate := ← s.float "rollRate" }

end SailSim.Json.Fields

namespace SailSim.Script

open Json

/-- Runs commands in order, collecting their answers. -/
def runCommands {σ : Type} (step : σ → Fields → Outcome (Json × σ)) :
    σ → List Fields → Outcome (List Json × σ)
  | s, [] => pure ([], s)
  | s, o :: os => do
    let (j, s) ← step s o
    let (js, s) ← runCommands step s os
    pure (j :: js, s)

end SailSim.Script
