import SailSim.Run.Basic
import SailSim.Text.Number

/-!
# Telemetry points and their line protocol

A point is a measurement name, tags and fields, both sorted by key, and a time. The state of
a sample is a `boat_state` point tagged with the run and the boat's frame; the end of a run is
a `run_summary` point also tagged with the run's name. A point's time is the run's start plus
the sample's simulated time, truncated to whole nanoseconds.

The line protocol writes a point as `name,tag=value,… field=value,… nanoseconds`, with the time
left out for the zero time. It comes in two dialects:

* `Point.line`, the form written to the backup file: spaces and commas escaped in names,
  also equals signs in tags and field keys, and newlines, returns and tabs written `\\n`, `\\r`,
  `\\t`; floats as in messages, non-finite ones by name.
* `Point.wireLine`, the form sent to the server: control characters written `\t`, `\n`,
  `\f`, `\r`, a tag with an empty key or value left out, floats written positionally, and a
  point with a non-finite field refused as a whole.

Integer fields end in `i`; text fields are quoted, with quotes and backslashes escaped.
-/

namespace SailSim.Influx

/-- A field value. -/
inductive FieldValue where
  | float (x : Float)
  | int (n : Int)
  | bool (b : Bool)
  | text (s : String)
  deriving Repr, Inhabited

/-- A point. -/
structure Point where
  measurement : String
  tags : List (String × String)
  fields : List (String × FieldValue)
  time : Instant

/-- A list sorted by key. -/
def sortByKey {α : Type} (xs : List (String × α)) : List (String × α) :=
  xs.mergeSort fun a b => decide (a.1 ≤ b.1)

/-- The point with its tags and fields sorted by key. -/
def Point.new (measurement : String) (tags : List (String × String))
    (fields : List (String × FieldValue)) (time : Instant) : Point :=
  ⟨measurement, sortByKey tags, sortByKey fields, time⟩

/-- A count as a signed 64-bit integer, wrapping around. -/
def int64 (n : Nat) : Int :=
  let m : Nat := n % Nat.pow 2 64
  if m ≥ Nat.pow 2 63 then (m : Int) - Int.pow 2 64 else (m : Int)

/-- A float of seconds as whole nanoseconds, truncated; out of range, `-2⁶³`. -/
def secondsToNanos (s : Float) : Int :=
  let x := s * 1e9
  if x.isNaN || x ≥ 9223372036854775808.0 || x < -9223372036854775808.0 then -(Int.pow 2 63)
  else
    let m := x.abs.toUInt64.toNat
    if x < 0 then -(m : Int) else m

/-- The time of a sample: the run's start plus the simulated time. -/
def sampleTime (r : Run) (simTime : Float) : Instant := r.startTime.addNanos (secondsToNanos simTime)

/-- The `boat_state` point of a sample. -/
def statePoint (r : Run) (s : StepSample) : Point :=
  let st := s.state
  Point.new "boat_state" [("run", r.uuid), ("frame", r.frame)]
    [("step", .int (int64 s.step)), ("lat", .float st.location.lat),
      ("lon", .float st.location.lon), ("alt", .float st.location.alt),
      ("north", .float st.position.x), ("east", .float st.position.y),
      ("roll", .float st.attitude.roll), ("pitch", .float st.attitude.pitch),
      ("yaw", .float st.attitude.yaw), ("speed", .float st.velocity.horizontalLength),
      ("airspeed", .float st.airspeed), ("wind_speed", .float s.windSpeed),
      ("wind_angle", .float s.windAngle), ("sail_angle", .float s.sailAngle),
      ("force_fwd", .float s.forceFwd), ("force_heel", .float s.forceHeel),
      ("wave_heave", .float s.waveHeave)]
    (sampleTime r s.simTime)

/-- The `run_summary` point of a run's end. -/
def summaryPoint (r : Run) (sm : RunSummary) : Point :=
  Point.new "run_summary" [("run", r.uuid), ("name", r.name), ("frame", r.frame)]
    [("steps", .int (int64 sm.steps)), ("sim_time", .float sm.simTime),
      ("distance", .float sm.distance), ("track_length", .float sm.trackLength),
      ("max_speed", .float sm.maxSpeed), ("cancelled", .bool sm.cancelled)]
    (sampleTime r sm.simTime)

/-- A name escaped for the backup form; equals signs too when `equals` is set. -/
def escapeKey (equals : Bool) (s : String) : String :=
  String.join (s.toList.map fun c => match c with
    | '\n' => "\\\\n"
    | '\r' => "\\\\r"
    | '\t' => "\\\\t"
    | ' ' => "\\ "
    | ',' => "\\,"
    | '=' => if equals then "\\=" else "="
    | c => c.toString)

/-- A text field's contents escaped. -/
def escapeText (s : String) : String :=
  String.join (s.toList.map fun c => if c == '\\' || c == '"' then "\\" ++ c.toString else c.toString)

/-- A field value in the backup form. -/
def FieldValue.text? : FieldValue → String
  | .float x => FloatStyle.general.render x
  | .int n => toString n ++ "i"
  | .bool b => if b then "true" else "false"
  | .text s => "\"" ++ escapeText s ++ "\""

/-- The time part of a line: a space and the nanoseconds, or nothing for the zero time. -/
def timePart (t : Instant) : String :=
  if t.isZero then "" else " " ++ toString t.unixNanos

/-- The point in the backup form, ending in a newline. -/
def Point.line (p : Point) : String :=
  escapeKey false p.measurement ++
    String.join (p.tags.map fun (k, v) => "," ++ escapeKey true k ++ "=" ++ escapeKey true v) ++
    " " ++ ",".intercalate (p.fields.map fun (k, v) => escapeKey true k ++ "=" ++ v.text?) ++
    timePart p.time ++ "\n"

/-- A name escaped for the server form; equals signs too when `equals` is set. -/
def wireEscape (equals : Bool) (s : String) : String :=
  String.join (s.toList.map fun c => match c with
    | '\t' => "\\t"
    | '\n' => "\\n"
    | '\x0c' => "\\f"
    | '\r' => "\\r"
    | ',' => "\\,"
    | ' ' => "\\ "
    | '=' => if equals then "\\=" else "="
    | c => c.toString)

/-- A field value in the server form, refused when not finite. -/
def FieldValue.wire? : FieldValue → Option String
  | .float x => if x.isNaN || x.isInf then none else some (FloatStyle.plain.render x)
  | v => some v.text?

/-- The point in the server form, ending in a newline; none when a field is refused. -/
def Point.wireLine (p : Point) : Option String := do
  let fields ← p.fields.mapM fun (k, v) => do pure (wireEscape true k ++ "=" ++ (← v.wire?))
  let tags := p.tags.filterMap fun (k, v) =>
    let k := wireEscape true k
    let v := wireEscape true v
    if k.isEmpty || v.isEmpty then none else some ("," ++ k ++ "=" ++ v)
  pure (wireEscape false p.measurement ++ String.join tags ++ " " ++ ",".intercalate fields ++
    timePart p.time ++ "\n")

end SailSim.Influx
