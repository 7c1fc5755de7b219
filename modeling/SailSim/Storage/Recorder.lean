import SailSim.Storage.Memory
import SailSim.Store.Backend
import SailSim.Store.File
import SailSim.Live.Stream
import SailSim.Config.Program

/-!
# Where a run is recorded

The settings choose one recorder for a run:

* `memory`: the run is kept in memory and exported to a JSON file when it ends;
* `sqlite`: the run goes to a fresh in-memory database, which is written to the dump path, when
  there is one, each time a run ends;
* `postgres`: the server cannot be reached, so the run goes to a fresh in-memory database that
  is never written out;
* `websocket`: the run is streamed to a live viewer, the stream's loops keeping up in real
  time;
* `none`, or nothing: the run is not recorded.

Any other kind is refused. The recorders have one life cycle: set up, start a run, record its
samples, end it with its summary, close. A database that dumps on a timer as well writes the
same file at the end of the run, so only the dump at the end is modelled.
-/

namespace SailSim.Storage

open Config

/-- A recorder of runs. -/
inductive Recorder where
  | memory (store : MemoryStore)
  /-- A database store, and the file it is written to when a run ends (none when empty). -/
  | database (store : Store.Backend) (dumpPath : String)
  | stream (s : Live.Stream)
  | none

namespace Recorder

/-- The recorder the settings choose, with `stream` the stream a viewer link starts from. -/
def ofSettings (s : StorageSettings) (stream : Live.Stream) : Except String Recorder :=
  match s.kind with
  | "memory" => .ok (.memory { settings := ⟨s.outputDir, s.compress⟩ })
  | "sqlite" => .ok (.database (Store.Backend.new (some {}) 0) s.dumpPath)
  | "postgres" => .ok (.database (Store.Backend.new (some {}) 0) "")
  | "websocket" => .ok (.stream stream)
  | "none" | "" => .ok .none
  | other => .error ("unknown storage type: " ++ other)

/-- Sets the recorder up; a stream dials `url` with `secret`. -/
def init (r : Recorder) (url secret : String) : Except String Unit × Recorder :=
  match r with
  | .database b p => let (res, b) := b.init; (res, .database b p)
  | .stream s => let (res, s) := s.dial url secret; (res, .stream s.settle)
  | r => (.ok (), r)

/-- Starts a run, with `fresh` as its UUID when it has none; answers the run as recorded. -/
def startRun (r : Recorder) (run : Run) (fresh : String) : Except String Run × Recorder :=
  match r with
  | .memory m => let (run, m) := m.startRun run fresh; (.ok run, .memory m)
  | .database b p =>
    match b.startRun run ((Uuid.parse fresh).toOption.getD ⟨[]⟩) with
    | .ok (_, b) => (.ok run, .database b p)
    | .error e => (.error e, .database b p)
  | .stream s =>
    let (res, s) := s.startRun run fresh (Live.Stream.waiting Live.startRunType)
    (res.map fun uuid => { run with uuid }, .stream s)
  | .none => (.ok run, .none)

/-- Records a sample of the active run. -/
def recordStep (r : Recorder) (x : StepSample) : Except String Unit × Recorder :=
  match r with
  | .memory m => match m.recordStep x with
    | .ok m => (.ok (), .memory m)
    | .error e => (.error e.message, .memory m)
  | .database b p => match b.recordStep x with
    | .ok b => (.ok (), .database b p)
    | .error e => (.error e.message, .database b p)
  | .stream s => let (res, s) := s.recordStep x; (res, .stream s.settle)
  | .none => (.ok (), .none)

/-- Ends the active run with its summary. -/
def endRun (r : Recorder) (summary : RunSummary) (disk : Disk) :
    Except String Unit × Recorder × Disk :=
  match r with
  | .memory m =>
    let (res, m, disk) := m.endRun (some summary) disk
    (res.mapError (·.message), .memory m, disk)
  | .database b p =>
    let (res, b) := b.endRun (some summary)
    match res, b.db with
    | .ok (), some db =>
      if p.isEmpty then (.ok (), .database b p, disk) else
      let (r, disk) := Store.dumpToDisk db disk p
      (r, .database b p, disk)
    | res, _ => (res, .database b p, disk)
  | .stream s =>
    let (res, s) := s.endRun (some summary) (Live.Stream.waiting Live.endRunType)
    (res, .stream s, disk)
  | .none => (.ok (), .none, disk)

/-- Closes the recorder. -/
def close (r : Recorder) : Except String Unit × Recorder :=
  match r with
  | .database b p => let (res, b) := b.close; (res, .database b p)
  | .stream s => (.ok (), .stream s.close)
  | r => (.ok (), r)

/-- The file the last run was exported to, empty when there is none. -/
def exportPath : Recorder → String
  | .memory m => m.lastExport
  | _ => ""

end Recorder

end SailSim.Storage
