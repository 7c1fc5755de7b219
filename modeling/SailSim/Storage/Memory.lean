import SailSim.Run.Export
import SailSim.Geo.Track
import SailSim.Disk.Basic
import SailSim.Gzip
import SailSim.Text.Utf8

/-!
# Keeping a run in memory and exporting it

The memory store keeps the samples of the active run and the track they draw, and writes the
run to one export file when it ends. Starting a run numbers it (1, 2, …), gives it a fresh UUID
when it has none and forgets the previous run's samples; ending a run writes the export and
leaves no run active, whether the export could be written or not. A sample outside a run is
refused.

The export is named `<name>_<first 8 bytes of the UUID>_<start in UTC as
YYYYMMDD_HHMMSS>.json`, with `.gz` added when compressed; spaces, colons and slashes in the
name become underscores and an empty name is `run`. The file is created before the run is
encoded, so a run that cannot be encoded leaves an empty file behind.
-/

namespace SailSim.Storage

/-- Why the memory store refused an operation. -/
inductive MemoryError where
  | noActiveRun
  | failed (message : String)
  deriving Repr, BEq

/-- The message of a memory store error. -/
def MemoryError.message : MemoryError → String
  | .noActiveRun => "no active run"
  | .failed m => m

/-- Where exports go and whether they are compressed. -/
structure MemorySettings where
  outputDir : String
  compress : Bool
  deriving Repr

/-- A run kept in memory. -/
structure MemoryStore where
  settings : MemorySettings
  run : Option Run := none
  samples : Array StepSample := #[]
  track : Geo.Track := {}
  /-- The number of runs started. -/
  started : Nat := 0
  /-- The file written by the last successful export, empty before one. -/
  lastExport : String := ""

namespace MemoryStore

/-- Starts recording `r`, with `fresh` as its UUID when it has none; returns the run as
numbered. -/
def startRun (m : MemoryStore) (r : Run) (fresh : String) : Run × MemoryStore :=
  let id := m.started + 1
  let r := { r with id, uuid := if r.uuid.isEmpty then fresh else r.uuid }
  (r, { m with started := id, run := some r, samples := #[], track := {} })

/-- Records a sample of the active run. -/
def recordStep (m : MemoryStore) (s : StepSample) : Except MemoryError MemoryStore :=
  match m.run with
  | none => .error .noActiveRun
  | some _ => .ok { m with samples := m.samples.push s,
                           track := m.track.add s.state.position s.state.location }

/-- The export's file name. -/
def fileName (r : Run) (compressed : Bool) : String :=
  let name := String.map (fun c => if c == ' ' || c == ':' || c == '/' then '_' else c) r.name
  let name := if name.isEmpty then "run" else name
  let id := r.uuid.toUTF8
  let id := if id.size > 8 then Text.decodeLossy (id.extract 0 8) else r.uuid
  let c := { r.startTime with offset := 0 }.toCivil
  let stamp := Instant.pad 4 c.year.toNat ++ Instant.pad 2 c.month ++ Instant.pad 2 c.day ++ "_" ++
    Instant.pad 2 c.hour ++ Instant.pad 2 c.minute ++ Instant.pad 2 c.second
  name ++ "_" ++ id ++ "_" ++ stamp ++ (if compressed then ".json.gz" else ".json")

/-- Writes the export of `r` to the disk and returns its path. -/
def writeExport (m : MemoryStore) (r : Run) (summary : Option RunSummary) (disk : Disk) :
    Except String String × Disk :=
  match m.track.lineString.geoJson with
  | .error e => (.error ("failed to encode track: " ++ e), disk)
  | .ok trackText =>
    let track := (Json.parse trackText).toOption
    let e : Export := { run := r, summary, track, samples := m.samples.toList }
    match disk.mkdirAll m.settings.outputDir with
    | .error err => (.error ("failed to create output directory: " ++ err.message), disk)
    | .ok disk =>
      let path := Path.join [m.settings.outputDir, fileName r m.settings.compress]
      let pack (b : ByteArray) : ByteArray := if m.settings.compress then Gzip.compress b else b
      match disk.writeFile path (pack ByteArray.empty) with
      | .error err => (.error ("failed to create file: " ++ err.message), disk)
      | .ok disk =>
        match e.text with
        | .error msg => (.error ("failed to write export: " ++ msg), disk)
        | .ok text =>
          match disk.writeFile path (pack text.toUTF8) with
          | .ok disk => (.ok path, disk)
          | .error err => (.error ("failed to write export: " ++ err.message), disk)

/-- Ends the active run: writes its export and leaves no run active. -/
def endRun (m : MemoryStore) (summary : Option RunSummary) (disk : Disk) :
    Except MemoryError Unit × MemoryStore × Disk :=
  match m.run with
  | none => (.error .noActiveRun, m, disk)
  | some r =>
    let (res, disk) := m.writeExport r summary disk
    let m := { m with run := none }
    match res with
    | .ok path => (.ok (), { m with lastExport := path }, disk)
    | .error msg => (.error (.failed msg), m, disk)

end MemoryStore

/-- Reads an export file: gzip-compressed when its name ends in `.gz`. -/
def readExport (disk : Disk) (path : String) : Except String Export := do
  let data ← disk.readFile path |>.mapError (·.message)
  let data ← if ".gz".toList.isSuffixOf path.toList then
      (Gzip.decompress data).mapError fun e => match e with
        | .header | .empty => "failed to open gzip: " ++ e.message
        | _ => "failed to decode export: " ++ e.message
    else pure data
  (Export.ofText (Text.decodeLossy data)).mapError ("failed to decode export: " ++ ·)

end SailSim.Storage
