import SailSim.Cli.Flags
import SailSim.Cli.World
import SailSim.Storage.Recorder
import SailSim.Influx.Link
import SailSim.Archive.Client
import SailSim.Sim.Setup
import SailSim.Run.Runner
import SailSim.Json.Write
import SailSim.Dispatch.Dispatcher

/-!
# A simulation session

`run` simulates one run as the configuration says, records it and reports its summary.

1. The settings are the configuration file of the `-config` directory over the defaults (the
   defaults alone when the file cannot be read), overridden by the flags that are given.
2. The logs directory is made, and the session's log file opened in it, named after the wall
   clock at the start: `sailsim.YYYYMMDD_HHMMSS.log`.
3. The boat is built, the schedule read, and the recorder chosen and set up; each step stops
   the session with its error, which the recorder's are prefixed with what was being done.
4. The run starts in the recorder. Its samples are published through a dispatcher to the
   recorder, through a blocking queue of 8192 samples, and, when they are enabled and connect,
   to the telemetry link (which, with no server to reach, writes to its backup file
   `influx_backup.<run>.log.gz` in the logs directory) and to the message broker, each through
   a queue of 4096 samples that drops a sample when full. Each queue's consumer handles its
   samples in order.
5. After the run the dispatcher is closed, which waits until every queue is empty. The run
   then ends in the recorder, in the telemetry link and at the broker, and the recorder is
   closed. A run exported to a file is uploaded to the run archive when uploads are enabled
   and the archive answers its health check.
6. The summary is written to the output as indented JSON.

The consumers run beside the simulation, and the run can be interrupted. `simulateWith` takes
both as parameters: `busy t i` says whether consumer `i` is busy at the moment `t` of the
session's clock, which ticks at every publication and every handled sample, and
`interrupted k` whether the run has been interrupted once `k` samples are published. `simulate`
is the session in which no consumer is ever busy and nothing interrupts the run.

What goes wrong after the run starts is logged, not returned: it does not change the exit
code. The logs themselves, the status monitor and the log pipeline leave nothing but files whose
contents are not modelled.
-/

namespace SailSim.Cli

open Config Storage

/-- The flags of `run`. -/
def runFlags : FlagSet := ⟨"run", [
  ⟨"config", .text ".", "directory holding " ++ Config.fileName⟩,
  ⟨"schedule", .text "", "control schedule JSON (overrides run.schedule)"⟩,
  ⟨"duration", .duration 0, "simulated run length (overrides run.duration)"⟩,
  ⟨"storage", .text "", "memory, sqlite, postgres, websocket or none (overrides storage.type)"⟩,
  ⟨"name", .text "", "run name (overrides run.name)"⟩,
  ⟨"home", .text "", "home position \"lon,lat,alt\" (overrides environment.home)"⟩]⟩

/-- The settings of a session: the configuration over the defaults, then the flags given. -/
def sessionSettings (disk : Disk) (f : Flags) : Settings :=
  let s := match load {} disk (f.text "config") with
    | .ok s => s
    | .error _ => ({} : Settings).withDefaults
  let s := [("run.schedule", f.text "schedule"), ("storage.type", f.text "storage"),
      ("run.name", f.text "name"), ("environment.home", f.text "home")].foldl
    (fun s (k, v) => if v.isEmpty then s else s.set k (.string v)) s
  let d := f.duration "duration"
  if d > 0 then s.set "run.duration" (.string (Duration.text d)) else s

/-- The name of the log file of a session started at `t`. -/
def logFileName (t : Instant) : String :=
  let c := t.toCivil
  "sailsim." ++ Instant.pad 4 c.year.toNat ++ Instant.pad 2 c.month ++ Instant.pad 2 c.day ++ "_" ++
    Instant.pad 2 c.hour ++ Instant.pad 2 c.minute ++ Instant.pad 2 c.second ++ ".log"

/-- What a session reads from the settings. -/
structure SessionSettings where
  boat : BoatSettings
  environment : EnvironmentSettings
  run : RunSettings
  storage : StorageSettings
  influx : InfluxSettings
  mqtt : MqttSettings
  /-- The configuration recorded with the run. -/
  snapshot : List (String × Json)

/-- The session settings the settings give. -/
def sessionOf (s : Settings) : SessionSettings :=
  ⟨s.boat, s.environment, s.run, s.storage, s.influx, s.mqtt, s.snapshot⟩

/-- Where a run's samples go. -/
structure Sinks where
  recorder : Recorder
  influx : Option Influx.Link := none
  broker : Option Telemetry.Publisher := none

/-- The sinks a dispatcher registration can stand for. -/
inductive SinkKind where
  | storage
  | influx
  | broker
  deriving Repr, DecidableEq

/-- The sinks after the sink `kind` handled a sample of `run`, and its error. The telemetry link
keeps its state when the point is refused. -/
def Sinks.handle (k : Sinks) (run : Run) (kind : SinkKind) (x : StepSample) :
    Sinks × Option String :=
  match kind with
  | .storage =>
    let (res, recorder) := k.recorder.recordStep x
    ({ k with recorder }, match res with | .ok () => none | .error e => some e)
  | .influx =>
    match k.influx with
    | some l =>
      match l.writePoint l.settings.bucket (Influx.statePoint run x) with
      | .ok l => ({ k with influx := some l }, none)
      | .error e => (k, some e.message)
    | none => (k, none)
  | .broker =>
    match k.broker with
    | some p =>
      let (res, p) := p.offer run x
      ({ k with broker := some p }, match res with | .ok () => none | .error e => some e)
    | none => (k, none)

/-- What the dispatcher's consumers work on: the sinks, and the session's clock, which ticks at
every publication and every handled sample. -/
structure SinkState where
  sinks : Sinks
  clock : Nat := 0

/-- The dispatcher's handlers of a run's sinks, registration `i` standing for `kinds[i]`;
consumer `i` is busy at the moment `t` when `busy t i`. -/
def sinkHandlers (run : Run) (kinds : List SinkKind) (busy : Nat → Nat → Bool) :
    Handlers SinkState where
  handle s i x :=
    match kinds[i]? with
    | some kind =>
      let (k, err) := s.sinks.handle run kind x
      (⟨k, s.clock + 1⟩, err)
    | none => (s, none)
  stalled s i := busy s.clock i

/-- The dispatcher with its sinks' state, as the runner publishes to it. -/
structure Pipeline where
  dispatcher : Dispatcher
  state : SinkState
  /-- The number of samples published. -/
  published : Nat := 0

/-- The runner's publisher: a sample is published through the dispatcher, and the run stops
once it is interrupted. -/
def Pipeline.publisher (h : Handlers SinkState) (interrupted : Nat → Bool) :
    Publisher Pipeline where
  publish p x :=
    let (d, s, err) := Dispatcher.publish h p.dispatcher p.state x
    (⟨d, { s with clock := s.clock + 1 }, p.published + 1⟩, err.isNone)
  cancelled p := interrupted p.published

/-- The control schedule at `path`, none when the path is empty. -/
def loadSchedule (disk : Disk) (path : String) : Except String (Option Schedule) :=
  if path.isEmpty then .ok none else
  match disk.readFile path with
  | .error e => .error ("read schedule: " ++ e.message)
  | .ok data => match Schedule.parse (Text.decodeLossy data) with
    | .ok s => .ok (some s)
    | .error e => .error e.message

/-- The telemetry link of a run, when enabled and its backup file opens. -/
def openLink (cfg : InfluxSettings) (logsDir : String) (run : Run) (disk : Disk) :
    Option Influx.Link × Disk :=
  if !cfg.enabled then (none, disk) else
  let link := Influx.Link.new cfg (Path.join [logsDir, "influx_backup." ++ run.uuid ++ ".log.gz"])
  match link.connect disk with
  | (.ok (), link, disk) => (some link, disk)
  | (.error _, _, disk) => (none, disk)

/-- The broker publisher of a run, when enabled and connected. -/
def openBroker (cfg : MqttSettings) (services : Services) : Option Telemetry.Publisher :=
  if !cfg.enabled then none else
  let reachable := match services.broker with
    | some b => b.url == cfg.broker
    | none => false
  let broker : Telemetry.Broker :=
    { connect := if reachable then .done else .failed "network Error : connection refused" }
  let p := Telemetry.Publisher.new cfg.topicPrefix cfg.qos cfg.decimate broker
  match p.connect with
  | (.ok (), p) => some p
  | (.error _, _) => none

/-- The services after the broker saw the publisher's requests. -/
def Services.withBroker (sv : Services) (p : Option Telemetry.Publisher) : Services :=
  match sv.broker, p with
  | some b, some p => { sv with broker := some { b with requests := b.requests ++ p.requests } }
  | _, _ => sv

/-- The name a sink is registered under. -/
def SinkKind.name : SinkKind → String
  | .storage => "storage"
  | .influx => "influx"
  | .broker => "mqtt"

/-- How a sink receives samples: the recorder through a blocking queue, the telemetry sinks
through queues that drop samples when full. -/
def SinkKind.delivery : SinkKind → Delivery
  | .storage => .queued 8192 true
  | .influx | .broker => .queued 4096 false

/-- A fresh dispatcher with the sinks `kinds` registered in order. -/
def registerSinks (h : Handlers SinkState) (st : SinkState) (kinds : List SinkKind) :
    Dispatcher × SinkState :=
  kinds.foldl (fun (d, st) kind =>
    let (d, st, _) := Dispatcher.register h d st kind.name kind.delivery
    (d, st)) ({}, st)

/-- Records a started run: its samples are published through a dispatcher to the sinks `kinds`,
registered in order, and the dispatcher is closed once the run is over. The run's summary and
the sinks after. -/
def recordRun (busy : Nat → Nat → Bool) (interrupted : Nat → Bool) (runner : Runner) (run : Run)
    (duration : Int) (sinks : Sinks) (kinds : List SinkKind) : RunSummary × Sinks :=
  let h := sinkHandlers run kinds busy
  let (d, st) := registerSinks h ⟨sinks, 0⟩ kinds
  let out := runner.run (Pipeline.publisher h interrupted) ⟨d, st, 0⟩ run duration
  let p := out.publisher
  let (_, st) := Dispatcher.close h p.dispatcher p.state
  (out.summary, st.sinks)

/-- Ends a run in every sink: the recorder ends it, the telemetry link writes the summary and
closes, and the broker publisher publishes the summary and closes. -/
def Sinks.finish (sinks : Sinks) (run : Run) (summary : RunSummary) (disk : Disk) :
    Recorder × Disk × Option Telemetry.Publisher :=
  let (_, recorder, disk) := sinks.recorder.endRun summary disk
  let disk := match sinks.influx with
    | some l =>
      let l := (l.writePoint l.settings.bucket (Influx.summaryPoint run summary)).toOption.getD l
      (l.close disk).2.2
    | none => disk
  let broker := sinks.broker.map fun p => (p.publishSummary summary).2.close
  (recorder, disk, broker)

/-- Simulates one run, with the consumers of the sinks busy at the moments `busy` says and the
run interrupted once `interrupted` says so: its summary and the file it was exported to, or the
error that stopped the session. -/
def simulateWith (busy : Nat → Nat → Bool) (interrupted : Nat → Bool) (cfg : SessionSettings)
    (logsDir : String) (m : Machine) : Except String (RunSummary × String) × Disk × Services :=
  let disk := m.disk
  let services := m.services
  let runCfg := cfg.run
  let env := cfg.environment
  match Setup.ofSettings cfg.boat env runCfg.timeStep with
  | .error e => (.error e.message, disk, services)
  | .ok setup =>
  match loadSchedule disk runCfg.schedule with
  | .error e => (.error e, disk, services)
  | .ok schedule =>
  let stream : Live.Stream := { network := services.network, viewer := services.viewer }
  let viewerOf (r : Recorder) : Services := match r with
    | .stream st => { services with viewer := st.viewer }
    | _ => services
  match Recorder.ofSettings cfg.storage stream with
  | .error e => (.error ("create storage backend: " ++ e), disk, services)
  | .ok recorder =>
  let st := cfg.storage
  match recorder.init st.websocketUrl st.websocketSecret with
  | (.error e, recorder) => (.error ("init storage backend: " ++ e), disk, viewerOf recorder)
  | (.ok (), recorder) =>
  let run := setup.sim.newRun setup.home m.fresh runCfg.name env.startTime runCfg.duration
    cfg.snapshot
  match recorder.startRun run m.fresh with
  | (.error e, recorder) =>
    (.error ("start run: " ++ e), disk, viewerOf (recorder.close).2)
  | (.ok run, recorder) =>
  let (influx, disk) := openLink cfg.influx logsDir run disk
  let broker := openBroker cfg.mqtt services
  let kinds : List SinkKind := .storage :: (if influx.isSome then [.influx] else []) ++
    (if broker.isSome then [.broker] else [])
  let (summary, sinks) := recordRun busy interrupted { sim := setup.sim, schedule } run
    runCfg.duration { recorder, influx, broker } kinds
  let (recorder, disk, broker) := sinks.finish run summary disk
  let exported := recorder.exportPath
  let recorder := recorder.close.2
  (.ok (summary, exported), disk, (viewerOf recorder).withBroker broker)

/-- Simulates one run in the session where no consumer is ever busy and nothing interrupts the
run. -/
def simulate (cfg : SessionSettings) (logsDir : String) (m : Machine) :
    Except String (RunSummary × String) × Disk × Services :=
  simulateWith (fun _ _ => false) (fun _ => false) cfg logsDir m

/-- Uploads the export at `path` to the run archive, when the archive answers its health check;
failures are only logged. -/
def uploadRun (s : Settings) (summary : RunSummary) (path : String) (disk : Disk)
    (services : Services) : Services :=
  let cfg := s.upload
  let client := Archive.Client.new cfg.url cfg.apiKey
  match client.healthcheck services.network services.archive with
  | (.error _, archive) => { services with archive }
  | (.ok (), archive) =>
    let info : Archive.Metadata :=
      { runId := summary.runId, runName := s.run.name, frame := s.getString "boat.frame"
        duration := summary.simTime, tag := cfg.tag }
    let (_, archive) := client.upload services.network archive disk path info
    { services with archive }

/-- The `run` command. -/
def runCommand (args : List String) (m : Machine) : Exit :=
  match runFlags.parse args with
  | (.error .help, err) => { m.failWith "" err with stderr := err }
  | (.error (.failed msg), err) => m.failWith msg err
  | (.ok f, _) =>
  let s := sessionSettings m.disk f
  let logsDir := s.getString "logsDir"
  match m.disk.mkdirAll logsDir with
  | .error e => m.failWith ("create logs dir: " ++ e.message)
  | .ok disk =>
  match disk.appendFile (Path.join [logsDir, logFileName m.clock]) ByteArray.empty with
  | .error e => { m with disk }.failWith ("open log file: " ++ e.message)
  | .ok disk =>
  match simulate (sessionOf s) logsDir { m with disk } with
  | (.error e, disk, services) => { m with disk, services }.failWith e
  | (.ok (summary, exported), disk, services) =>
  let services := if !exported.isEmpty && s.upload.enabled then
      uploadRun s summary exported disk services
    else services
  let m := { m with disk, services }
  match summary.toJson with
  | .ok j => m.succeed (Json.pretty "" j ++ "\n")
  | .error e => m.failWith e

end SailSim.Cli
