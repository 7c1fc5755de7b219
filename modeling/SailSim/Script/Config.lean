import SailSim.Script.Scratch
import SailSim.Config.Program

/-!
# The settings script

Loads the program's settings, from the text `json` written as the configuration file of a fresh
directory, or from the defaults alone when it is absent, and answers every typed view of them,
with `get` reading further keys as text, integer, flag or float.
-/

namespace SailSim.Script

open Json Config

/-- The boat's settings. -/
def boatSettings (b : BoatSettings) : Json :=
  let h := b.heel
  .object [("frame", .string b.frame), ("sailType", .string b.sailType),
    ("forceScaling", .string b.forceScaling), ("sailArea", num b.sailArea),
    ("airDensity", num b.airDensity), ("mass", num b.mass),
    ("steeringAngleMax", num b.steeringAngleMax), ("turningCircle", num b.turningCircle),
    ("hullDrag", num b.hullDrag), ("throttleGain", num b.throttleGain),
    ("heel", .object [("policy", .string h.policy), ("angleGain", num h.angleGain),
      ("centerOfEffort", num h.centerOfEffort), ("keelMass", num h.keelMass),
      ("keelDepth", num h.keelDepth), ("keelChord", num h.keelChord), ("damping", num h.damping)]),
    ("waveGains", .object [("angle", num b.waveGains.angle), ("heave", num b.waveGains.heave)])]

/-- The environment's settings; the start time in UTC. -/
def environmentSettings (e : EnvironmentSettings) : Json :=
  .object [("windSpeed", num e.windSpeed), ("windDirection", num e.windDirection),
    ("gustAmplitude", num e.gustAmplitude), ("gustPeriod", num e.gustPeriod),
    ("tideSpeed", num e.tideSpeed), ("tideDirection", num e.tideDirection),
    ("waveEnable", Json.int e.waveEnable), ("waveAmplitude", num e.waveAmplitude),
    ("waveLength", num e.waveLength), ("waveSpeed", num e.waveSpeed),
    ("waveDirection", num e.waveDirection), ("armed", .bool e.armed), ("home", .string e.home),
    ("startTime", .string { e.startTime with offset := 0 }.format)]

/-- Every typed view of the settings. -/
def settingsViews (s : Settings) : List (String × Json) :=
  let r := s.run
  let st := s.storage
  let i := s.influx
  let m := s.mqtt
  let o := s.otel
  let u := s.upload
  let g := s.graylog
  let mon := s.monitor
  let str (t : String) : Json := .string t
  [("boat", boatSettings s.boat), ("env", environmentSettings s.environment),
    ("run", .object [("name", str r.name), ("timeStep", num r.timeStep),
      ("durationNs", Json.int r.duration), ("schedule", str r.schedule)]),
    ("storage", .object [("type", str st.kind), ("memoryOutputDir", str st.outputDir),
      ("memoryCompress", .bool st.compress), ("sqliteDumpIntervalNs", Json.int st.dumpInterval),
      ("sqliteDumpPath", str st.dumpPath), ("websocketUrl", str st.websocketUrl),
      ("websocketSecret", str st.websocketSecret),
      ("db", .array ([st.db.host, st.db.port, st.db.username, st.db.password,
        st.db.database].map str))]),
    ("influx", .array ([.bool i.enabled] ++ [i.host, i.port, i.protocol, i.token, i.org,
      i.bucket].map str)),
    ("mqtt", .array [.bool m.enabled, str m.broker, str m.clientId, str m.topicPrefix,
      Json.nat m.qos.toNat, Json.int m.decimate]),
    ("otel", .array [.bool o.enabled, str o.serviceName, Json.int o.batchTimeout, str o.endpoint,
      .bool o.insecure]),
    ("graylog", .array [.bool g.enabled, str g.address]),
    ("upload", .array [.bool u.enabled, str u.url, str u.apiKey, str u.tag]),
    ("monitor", .array [.bool mon.enabled, Json.int mon.interval])]

/-- Reads one key as the kind asked for. -/
def readKey (s : Settings) (q : Fields) : Outcome Json := do
  let key ← q.text "key"
  match ← q.text "kind" with
  | "string" => pure (.string (s.getString key))
  | "int" => pure (Json.int (s.getInt key))
  | "bool" => pure (.bool (s.getBool key))
  | "float" => pure (num (s.getFloat key))
  | k => badInput ("unknown kind " ++ k)

/-- The settings script: the settings file, when given, is written to the site's scratch
directory and read from there. -/
def configScript (site : Site) (r : Fields) : Outcome Json := do
  let queries ← r.records "get" "main.GetSpec"
  let s ← if r.has "json" then
      let disk ← match site.emptyDisk.writeFile (site.path fileName) (← r.text "json").toUTF8 with
        | .ok d => pure d
        | .error e => fail "error" e.message
      match load {} disk site.scratch with
      | .ok s => pure s
      | .error e => fail "error" e.message
    else pure ({} : Settings).withDefaults
  let got ← queries.mapM (readKey s)
  pure (.object (settingsViews s ++ [("get", .array got)]))

end SailSim.Script
