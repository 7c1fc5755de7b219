import SailSim.Cli.Flags
import SailSim.Cli.World
import SailSim.Storage.Memory
import SailSim.Store.File
import SailSim.Store.Database
import SailSim.Text.Number

/-!
# Recorded runs

A recorded run is read back from one of two sources:

* a JSON export (a path ending in `.json` or `.json.gz`), which holds one run, so the run need
  not be named; a named run must be the one it holds;
* a database file, where the run must be named by its UUID; its track is the one stored when
  the run ended, or, for a run that never ended, the track its samples draw.

Either way the run comes back with its UUID, name, longitude/latitude track and the east/north
offsets of its samples. A track read back is checked as the geometry library checks it: a line of
two or more points that all lie at one place cannot be read from either source.

`export` writes a recorded run's track as well-known text or GeoJSON. Given a directory it lists
the runs of every database file in it; given a database without a run it lists the database's
runs, newest first, one line each: UUID, name, steps and distance to a tenth of a metre.
Opening a database file that does not exist creates it.
-/

namespace SailSim.Cli

open Store

/-- A run read back. -/
structure RecordedRun where
  uuid : String
  name : String
  /-- Longitude/latitude. -/
  track : Geo.LineString
  /-- East and north metres from home, a pair a sample. -/
  offsets : Array (Float × Float)

/-- Whether a path names a JSON export. -/
def isExport (path : String) : Bool := path.endsWith ".json" || path.endsWith ".json.gz"

/-- The line of a GeoJSON line string. -/
def trackOfGeoJson (j : Json) : Except String Geo.LineString :=
  match j.find? "type", j.find? "coordinates" with
  | some (.string "LineString"), some (.array cs) =>
    let point : Json → Option (Float × Float) := fun c => match c with
      | .array (.number x :: .number y :: _) =>
        match Text.readFloat x, Text.readFloat y with
        | .ok x, .ok y => some (x, y)
        | _, _ => none
      | _ => none
    match cs.mapM point with
    | some ps =>
      -- the line is checked as the geometry library checks what it reads
      let l : Geo.LineString := ⟨ps.toArray⟩
      match l.oneDistinctPoint? with
      | some e => .error e
      | none => .ok l
    | none => .error "invalid GeoJSON coordinates"
  | some (.string t), _ => .error ("cannot unmarshal GeoJSON of type " ++ t ++ " into LineString")
  | _, _ => .error "invalid GeoJSON"

/-- The run of the export at `path`, which must be `runId` unless that is empty. -/
def loadExportRun (disk : Disk) (path runId : String) : Except String RecordedRun := do
  let e ← Storage.readExport disk path
  if !runId.isEmpty && runId != e.run.uuid then
    throw (path ++ " holds run " ++ e.run.uuid ++ ", not " ++ runId)
  let track ← (trackOfGeoJson (e.track.getD .null)).mapError ("decode track: " ++ ·)
  pure ⟨e.run.uuid, e.run.name, track,
    (e.samples.map fun s => (s.state.position.y, s.state.position.x)).toArray⟩

/-- Opens the database file at `path`. -/
def openDatabase (disk : Disk) (path : String) : Except String (Database × Disk) :=
  match Connection.openFile disk path with
  | .ok (c, disk) => .ok (c.db, disk)
  | .error e => .error ("open " ++ path ++ ": " ++ e)

/-- The run `runId` of the database file at `path`. -/
def loadDatabaseRun (disk : Disk) (path runId : String) : Except String RecordedRun × Disk :=
  if runId.isEmpty then (.error "-run is required for database sources", disk) else
  match openDatabase disk path with
  | .error e => (.error e, disk)
  | .ok (db, disk) =>
    let r : Except String RecordedRun := do
      let u ← (Uuid.parse runId).mapError ("run uuid: " ++ ·.message)
      let run ← (db.loadRun u).mapError fun e => "load run " ++ runId ++ ": " ++ e.message
      let samples ← (db.loadSamples run.id).mapError fun e =>
        s!"load samples of run {run.id}: " ++ e.message
      let track := if run.track.isEmpty then trackOfSamples samples else run.track
      pure ⟨run.uuid.toString, run.name, track,
        (samples.map fun m => (m.offset.y, m.offset.x)).toArray⟩
    (r, disk)

/-- The run `runId` of the source at `path`. -/
def loadRecordedRun (disk : Disk) (path runId : String) : Except String RecordedRun × Disk :=
  if isExport path then (loadExportRun disk path runId, disk) else loadDatabaseRun disk path runId

/-- The lines listing the runs of the database file at `path`. -/
def listRuns (disk : Disk) (path : String) : Except String (List String) × Disk :=
  match openDatabase disk path with
  | .error e => (.error e, disk)
  | .ok (db, disk) =>
    match db.listRuns with
    | .error e => (.error ("list runs: " ++ e.message), disk)
    | .ok rs => (.ok (rs.map fun r =>
        r.uuid.toString ++ "\t" ++ r.name ++ "\t" ++ toString r.summary.steps ++ " steps\t" ++
          fixed r.summary.distance 1 ++ " m"), disk)

/-- Lists the runs of every database file in `dir`: what was written, and the error that
stopped the listing, if any. -/
def listDumps (disk : Disk) (dir : String) : List String × Option String × Disk :=
  match Store.listDumps disk dir with
  | .error e => ([], some e, disk)
  | .ok paths => go paths [] disk
where
  /-- Lists each database in turn. -/
  go : List String → List String → Disk → List String × Option String × Disk
    | [], out, disk => (out, none, disk)
    | p :: ps, out, disk =>
      let out := out ++ ["# " ++ p]
      match listRuns disk p with
      | (.ok lines, disk) => go ps (out ++ lines) disk
      | (.error e, disk) => (out, some e, disk)

/-- The flags of `export`. -/
def exportFlags : FlagSet := ⟨"export", [
  ⟨"db", .text "", "SQLite dump or JSON export to read"⟩,
  ⟨"run", .text "", "run uuid"⟩,
  ⟨"format", .text "geojson", "wkt or geojson"⟩]⟩

/-- The lines as the output holds them. -/
def linesText (lines : List String) : String := String.join (lines.map (· ++ "\n"))

/-- The `export` command. -/
def exportCommand (args : List String) (m : Machine) : Exit :=
  match exportFlags.parse args with
  | (.error .help, err) => { m.failWith "" err with stderr := err }
  | (.error (.failed msg), err) => m.failWith msg err
  | (.ok f, _) =>
  let src := f.text "db"
  let runId := f.text "run"
  let format := f.text "format"
  if src.isEmpty then m.failWith "-db is required" else
  if m.disk.isDir src then
    match listDumps m.disk src with
    | (out, none, disk) => { m with disk }.succeed (linesText out)
    | (out, some e, disk) => { m with disk }.failWith e [] (linesText out)
  else if runId.isEmpty && !isExport src then
    match listRuns m.disk src with
    | (.ok out, disk) => { m with disk }.succeed (linesText out)
    | (.error e, disk) => { m with disk }.failWith e
  else
  match loadRecordedRun m.disk src runId with
  | (.error e, disk) => { m with disk }.failWith e
  | (.ok rr, disk) =>
    let m := { m with disk }
    match format.toLower with
    | "wkt" => m.succeed (rr.track.wkt ++ "\n")
    | "geojson" => match rr.track.geoJson with
      | .ok text => m.succeed (text ++ "\n")
      | .error e => m.failWith e
    | _ => m.failWith ("unknown format " ++ Text.quote format)

end SailSim.Cli
