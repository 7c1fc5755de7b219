import SailSim.Config.Layers
import SailSim.Sim.Settings
import SailSim.Time.Rfc3339
import SailSim.Disk.Basic
import SailSim.Text.Utf8

/-!
# The program's settings

The settings the simulator reads, with their defaults, and the typed views of them: the boat,
the environment, the run, storage, the telemetry links, the archive upload, the status monitor
and log shipping.

The configuration file is `sailsim.cfg.json` in the configuration directory. It is looked for
with each known extension added first (`sailsim.cfg.json.json`, `…toml`, …, `…ini`), then
under its own name; a directory of one of those names does not count. Whatever its name, the
file is read as JSON, and must hold an object or `null`.
-/

namespace SailSim.Config

open Json

/-- Every default: key and value. -/
def defaults : List (String × Json) := [
  ("logLevel", .string "info"), ("logsDir", .string "./sailsimlogs"),
  ("boat.frame", .string "sailboat"), ("boat.sailType", .string "mainsail"),
  ("boat.forceScaling", .string "si"), ("boat.sailArea", Json.float 1.0),
  ("boat.airDensity", Json.float 1.225), ("boat.mass", Json.float 2.0),
  ("boat.steeringAngleMax", Json.float 35.0), ("boat.turningCircle", Json.float 1.8),
  ("boat.hullDrag", Json.float 0.5), ("boat.throttleGain", Json.float 0.1),
  ("boat.heel.policy", .string "direct"), ("boat.heel.angleGain", Json.float 0.05),
  ("boat.heel.centerOfEffort", Json.float 0.5), ("boat.heel.keelMass", Json.float 1.0),
  ("boat.heel.keelDepth", Json.float 0.5), ("boat.heel.keelChord", Json.float 0.1),
  ("boat.heel.damping", Json.float 50.0), ("boat.waveGains.angle", Json.float 1.0),
  ("boat.waveGains.heave", Json.float 1.0),
  ("environment.wind.speed", Json.float 0.0), ("environment.wind.direction", Json.float 0.0),
  ("environment.wind.gustAmplitude", Json.float 0.0),
  ("environment.wind.gustPeriod", Json.float 0.0),
  ("environment.tide.speed", Json.float 0.0), ("environment.tide.direction", Json.float 0.0),
  ("environment.wave.enable", Json.nat 0), ("environment.wave.amplitude", Json.float 0.5),
  ("environment.wave.length", Json.float 10.0), ("environment.wave.speed", Json.float 2.0),
  ("environment.wave.direction", Json.float 0.0), ("environment.armed", .bool true),
  ("environment.home", .string "149.165230,-35.363261,584"),
  ("environment.startTime", .string "2024-06-01T00:00:00Z"),
  ("run.name", .string "sailsim"), ("run.timeStep", Json.float 0.0025),
  ("run.duration", .string "60s"), ("run.schedule", .string ""),
  ("storage.type", .string "memory"), ("storage.memory.outputDir", .string "./runs"),
  ("storage.memory.compressOutput", .bool true), ("storage.sqlite.dumpInterval", .string "3m"),
  ("storage.sqlite.dumpPath", .string "./runs/sailsim.db"),
  ("storage.websocket.url", .string "ws://localhost:5000/api/v1/stream"),
  ("storage.websocket.secret", .string ""),
  ("db.host", .string "localhost"), ("db.port", .string "5432"),
  ("db.username", .string "postgres"), ("db.password", .string "postgres"),
  ("db.database", .string "sailsim"),
  ("influx.enabled", .bool false), ("influx.host", .string "localhost"),
  ("influx.port", .string "8086"), ("influx.protocol", .string "http"),
  ("influx.token", .string "supersecrettoken"), ("influx.org", .string "sailsim"),
  ("influx.bucket", .string "sitl_telemetry"),
  ("mqtt.enabled", .bool false), ("mqtt.broker", .string "tcp://localhost:1883"),
  ("mqtt.clientId", .string "sailsim"), ("mqtt.topicPrefix", .string "sailsim"),
  ("mqtt.qos", Json.nat 0), ("mqtt.decimate", Json.nat 40),
  ("otel.enabled", .bool false), ("otel.serviceName", .string "sailsim"),
  ("otel.batchTimeout", .string "5s"), ("otel.endpoint", .string ""),
  ("otel.insecure", .bool true),
  ("upload.enabled", .bool false), ("upload.url", .string "http://localhost:5000"),
  ("upload.apiKey", .string ""), ("upload.tag", .string ""),
  ("monitor.enabled", .bool true), ("monitor.interval", .string "1s"),
  ("graylog.enabled", .bool false), ("graylog.address", .string "localhost:12201")]

/-- The settings with every default given. -/
def Settings.withDefaults (s : Settings) : Settings :=
  Config.defaults.foldl (fun s (k, v) => s.setDefault k v) s

/-- The name of the configuration file. -/
def fileName : String := "sailsim.cfg.json"

/-- The extensions tried after the file name, in order. -/
def knownExtensions : List String :=
  ["json", "toml", "yaml", "yml", "properties", "props", "prop", "hcl", "tfvars", "dotenv", "env",
    "ini"]

/-- The configuration file in `dir`, if there is one. -/
def findFile (disk : Disk) (dir : String) : Option String :=
  let candidates := knownExtensions.map (fun e => Path.join [dir, fileName ++ "." ++ e]) ++
    [Path.join [dir, fileName]]
  candidates.find? disk.isFile

/-- Why the configuration could not be loaded. -/
inductive LoadError where
  /-- No configuration file in the searched directory (given absolute). -/
  | notFound (dir : String)
  | unreadable (message : String)
  /-- The file is not a JSON object. -/
  | parse (message : String)
  deriving Repr, BEq

/-- The message of a load error. -/
def LoadError.message : LoadError → String
  | .notFound dir => "error reading config file: Config File \"" ++ fileName ++ "\" Not Found in \"[" ++
      dir ++ "]\""
  | .unreadable m => "error reading config file: " ++ m
  | .parse m => "error reading config file: While parsing config: " ++ m

/-- Loads the configuration file of `dir` over the defaults. -/
def load (s : Settings) (disk : Disk) (dir : String) : Except LoadError Settings := do
  let s := s.withDefaults
  let abs := disk.resolve dir
  let some path := findFile disk abs | throw (.notFound abs)
  let data ← (disk.readFile path).mapError fun e => .unreadable e.message
  (s.readFile (Text.decodeLossy data)).mapError .parse

namespace Settings

/-- The boat's settings. -/
def boat (s : Settings) : BoatSettings where
  frame := s.getString "boat.frame"
  sailType := s.getString "boat.sailType"
  forceScaling := s.getString "boat.forceScaling"
  sailArea := s.getFloat "boat.sailArea"
  airDensity := s.getFloat "boat.airDensity"
  mass := s.getFloat "boat.mass"
  steeringAngleMax := s.getFloat "boat.steeringAngleMax"
  turningCircle := s.getFloat "boat.turningCircle"
  hullDrag := s.getFloat "boat.hullDrag"
  throttleGain := s.getFloat "boat.throttleGain"
  heel := {
    policy := s.getString "boat.heel.policy"
    angleGain := s.getFloat "boat.heel.angleGain"
    centerOfEffort := s.getFloat "boat.heel.centerOfEffort"
    keelMass := s.getFloat "boat.heel.keelMass"
    keelDepth := s.getFloat "boat.heel.keelDepth"
    keelChord := s.getFloat "boat.heel.keelChord"
    damping := s.getFloat "boat.heel.damping" }
  waveGains := ⟨s.getFloat "boat.waveGains.angle", s.getFloat "boat.waveGains.heave"⟩

/-- The start of 1970 in UTC, the start time when the setting is not a time. -/
def epoch : Instant := ⟨0, 0, 0⟩

/-- The environment's settings. -/
def environment (s : Settings) : EnvironmentSettings where
  windSpeed := s.getFloat "environment.wind.speed"
  windDirection := s.getFloat "environment.wind.direction"
  gustAmplitude := s.getFloat "environment.wind.gustAmplitude"
  gustPeriod := s.getFloat "environment.wind.gustPeriod"
  tideSpeed := s.getFloat "environment.tide.speed"
  tideDirection := s.getFloat "environment.tide.direction"
  waveEnable := s.getInt "environment.wave.enable"
  waveAmplitude := s.getFloat "environment.wave.amplitude"
  waveLength := s.getFloat "environment.wave.length"
  waveSpeed := s.getFloat "environment.wave.speed"
  waveDirection := s.getFloat "environment.wave.direction"
  armed := s.getBool "environment.armed"
  home := s.getString "environment.home"
  startTime := (Time.readRfc3339 (s.getString "environment.startTime")).toOption.getD epoch

end Settings

/-- A run's settings. -/
structure RunSettings where
  name : String
  timeStep : Float
  /-- Nanoseconds. -/
  duration : Int
  /-- The control schedule's path, empty for neutral input. -/
  schedule : String

/-- Postgres connection settings. -/
structure DbSettings where
  host : String
  port : String
  username : String
  password : String
  database : String

/-- The storage backend's settings. -/
structure StorageSettings where
  kind : String
  outputDir : String
  compress : Bool
  /-- Nanoseconds between snapshots. -/
  dumpInterval : Int
  dumpPath : String
  websocketUrl : String
  websocketSecret : String
  db : DbSettings

/-- The InfluxDB link's settings. -/
structure InfluxSettings where
  enabled : Bool
  host : String
  port : String
  protocol : String
  token : String
  org : String
  bucket : String

/-- The MQTT link's settings. -/
structure MqttSettings where
  enabled : Bool
  broker : String
  clientId : String
  topicPrefix : String
  /-- The quality of service, a byte: the setting's low eight bits. -/
  qos : UInt8
  /-- Publish every `decimate`-th step. -/
  decimate : Int

/-- OpenTelemetry settings. -/
structure OtelSettings where
  enabled : Bool
  serviceName : String
  /-- Nanoseconds. -/
  batchTimeout : Int
  endpoint : String
  insecure : Bool

/-- The run archive upload's settings. -/
structure UploadSettings where
  enabled : Bool
  url : String
  apiKey : String
  tag : String

/-- The status monitor's settings. -/
structure MonitorSettings where
  enabled : Bool
  /-- Nanoseconds. -/
  interval : Int

/-- Log shipping settings. -/
structure GraylogSettings where
  enabled : Bool
  address : String

namespace Settings

/-- The run's settings. -/
def run (s : Settings) : RunSettings :=
  ⟨s.getString "run.name", s.getFloat "run.timeStep", s.getDuration "run.duration",
    s.getString "run.schedule"⟩

/-- The storage settings. -/
def storage (s : Settings) : StorageSettings :=
  ⟨s.getString "storage.type", s.getString "storage.memory.outputDir",
    s.getBool "storage.memory.compressOutput", s.getDuration "storage.sqlite.dumpInterval",
    s.getString "storage.sqlite.dumpPath", s.getString "storage.websocket.url",
    s.getString "storage.websocket.secret",
    ⟨s.getString "db.host", s.getString "db.port", s.getString "db.username",
      s.getString "db.password", s.getString "db.database"⟩⟩

/-- The InfluxDB settings. -/
def influx (s : Settings) : InfluxSettings :=
  ⟨s.getBool "influx.enabled", s.getString "influx.host", s.getString "influx.port",
    s.getString "influx.protocol", s.getString "influx.token", s.getString "influx.org",
    s.getString "influx.bucket"⟩

/-- The MQTT settings. -/
def mqtt (s : Settings) : MqttSettings :=
  ⟨s.getBool "mqtt.enabled", s.getString "mqtt.broker", s.getString "mqtt.clientId",
    s.getString "mqtt.topicPrefix", UInt8.ofNat (s.getInt "mqtt.qos" % 256).toNat,
    s.getInt "mqtt.decimate"⟩

/-- The OpenTelemetry settings. -/
def otel (s : Settings) : OtelSettings :=
  ⟨s.getBool "otel.enabled", s.getString "otel.serviceName", s.getDuration "otel.batchTimeout",
    s.getString "otel.endpoint", s.getBool "otel.insecure"⟩

/-- The upload settings. -/
def upload (s : Settings) : UploadSettings :=
  ⟨s.getBool "upload.enabled", s.getString "upload.url", s.getString "upload.apiKey",
    s.getString "upload.tag"⟩

/-- The monitor settings. -/
def monitor (s : Settings) : MonitorSettings :=
  ⟨s.getBool "monitor.enabled", s.getDuration "monitor.interval"⟩

/-- The log shipping settings. -/
def graylog (s : Settings) : GraylogSettings :=
  ⟨s.getBool "graylog.enabled", s.getString "graylog.address"⟩

/-- The sections of the settings stored with each run: boat, environment and run. -/
def snapshot (s : Settings) : List (String × Json) :=
  let all := match s.allSettings with
    | .object ms => ms
    | _ => []
  ["boat", "environment", "run"].filterMap fun k => (member? all k).map (k, ·)

end Settings

end SailSim.Config
