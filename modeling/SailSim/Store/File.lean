import SailSim.Store.Database
import SailSim.Disk.Basic
import SailSim.Json.Read
import SailSim.Text.ReadFloat
import SailSim.Text.Utf8

/-!
# Database files

A database file starts with the sixteen bytes `SQLite format 3` and a zero byte; the rest holds
the tables as one JSON value, each row a list of its columns, floats in the shortest form that
reads back and non-finite floats by name. An empty file is an empty database.

Opening a file as a database creates it when it is missing, and writes the header into it.
A directory, or a path below a missing directory, cannot be opened (`unable to open database
file: out of memory (14)`); a file that does not start with the header is `not a database (26)`,
reported when the connection is first configured.

A snapshot replaces the file at its path: the directory is made, an existing entry removed,
and then the database written, which fails when the database is closed. What the steps before
a failure did stays done, so a snapshot that fails on the database leaves no file behind.
-/

namespace SailSim.Store

open Json

/-- The first bytes of a database file. -/
def fileHeader : ByteArray := "SQLite format 3".toUTF8.push 0

namespace Column

/-- A float column. -/
def num (x : Float) : Json :=
  if x.isNaN || x.isInf then .string (jsonFloat.render x) else Json.float x

/-- A float column read back. -/
def numOf? : Json → Option Float
  | .number s | .string s => (Text.readFloat s).toOption
  | _ => none

/-- A whole-number column read back. -/
def natOf? : Json → Option Nat
  | .number s => s.toNat?
  | _ => none

/-- A text column read back. -/
def strOf? : Json → Option String
  | .string s => some s
  | _ => none

/-- A flag column read back. -/
def boolOf? : Json → Option Bool
  | .bool b => some b
  | _ => none

/-- Three float columns. -/
def vec (v : Vec3 Float) : List Json := [num v.x, num v.y, num v.z]

/-- A point column: its three coordinates, or `null` when empty. -/
def point (p : Point) : Json :=
  match p.coords with
  | some (x, y, z) => .array [num x, num y, num z]
  | none => .null

/-- A point column read back. -/
def pointOf? : Json → Option Point
  | .null => some ⟨none⟩
  | .array [x, y, z] => do some ⟨some (← numOf? x, ← numOf? y, ← numOf? z)⟩
  | _ => none

/-- A time column: seconds, nanoseconds and zone offset. -/
def instant (t : Instant) : Json := .array [Json.int t.unix, Json.nat t.nanos, Json.int t.offset]

/-- A time column read back. -/
def instantOf? : Json → Option Instant
  | .array [.number u, .number n, .number o] => do some ⟨← u.toInt?, ← n.toNat?, ← o.toInt?⟩
  | _ => none

/-- A line string column. -/
def lineString (l : Geo.LineString) : Json :=
  .array (l.points.toList.map fun (x, y) => .array [num x, num y])

/-- A line string column read back. -/
def lineStringOf? : Json → Option Geo.LineString
  | .array ps => do
    let pts ← ps.mapM fun p => match p with
      | .array [x, y] => do some (← numOf? x, ← numOf? y)
      | _ => none
    some ⟨pts.toArray⟩
  | _ => none

end Column

open Column

/-- The columns of a run. -/
def StoredRun.row (r : StoredRun) : Json :=
  let s := r.summary
  .array ([Json.nat r.id, .string r.uuid.toString, .string r.name, .string r.frame,
    instant r.startTime, num r.timeStep, num r.duration, point r.home, .string r.config,
    lineString r.track, .bool s.ended, .bool s.cancelled, Json.nat s.steps] ++
    [s.simTime, s.distance, s.trackLength, s.maxSpeed, s.finalLat, s.finalLon, s.finalAlt].map num)

/-- A run read back from its columns. -/
def StoredRun.ofRow? : Json → Option StoredRun
  | .array [id, u, name, frame, start, ts, dur, home, cfg, track, ended, cancelled, steps,
      simTime, dist, len, maxSpeed, lat, lon, alt] => do
    let uuid ← (Uuid.parse (← strOf? u)).toOption
    some { id := ← natOf? id, uuid, name := ← strOf? name, frame := ← strOf? frame,
           startTime := ← instantOf? start, timeStep := ← numOf? ts, duration := ← numOf? dur,
           home := ← pointOf? home, config := ← strOf? cfg, track := ← lineStringOf? track,
           summary := { ended := ← boolOf? ended, cancelled := ← boolOf? cancelled,
                        steps := ← natOf? steps, simTime := ← numOf? simTime,
                        distance := ← numOf? dist, trackLength := ← numOf? len,
                        maxSpeed := ← numOf? maxSpeed, finalLat := ← numOf? lat,
                        finalLon := ← numOf? lon, finalAlt := ← numOf? alt } }
  | _ => none

/-- The columns of a sample. -/
def StoredSample.row (m : StoredSample) : Json :=
  .array ([Json.nat m.id, Json.nat m.runId, Json.nat m.step, num m.simTime, instant m.wallTime,
    point m.position] ++ vec m.offset ++ vec m.velocity ++ vec m.water ++ vec m.gyro ++
    vec m.accel ++ vec m.mag ++ [num m.attitude.roll, num m.attitude.pitch, num m.attitude.yaw] ++
    [m.servos.steering, m.servos.throttle, m.servos.mainsail, m.servos.wing].map (Json.nat ·.toNat) ++
    [m.airspeed, m.windSpeed, m.windAngle, m.sailAngle, m.forceFwd, m.forceHeel, m.wavePhase,
      m.waveHeave, m.rollRate].map num)

/-- A sample read back from its columns. -/
def StoredSample.ofRow? (j : Json) : Option StoredSample := do
  let .array cs := j | none
  let c (i : Nat) : Json := cs.getD i .null
  let f (i : Nat) : Option Float := numOf? (c i)
  let v (i : Nat) : Option (Vec3 Float) := do some ⟨← f i, ← f (i + 1), ← f (i + 2)⟩
  let w (i : Nat) : Option UInt16 := do some (UInt16.ofNat (← natOf? (c i)))
  if cs.length != 40 then none
  some { id := ← natOf? (c 0), runId := ← natOf? (c 1), step := ← natOf? (c 2),
         simTime := ← f 3, wallTime := ← instantOf? (c 4), position := ← pointOf? (c 5),
         offset := ← v 6, velocity := ← v 9, water := ← v 12, gyro := ← v 15, accel := ← v 18,
         mag := ← v 21, attitude := ⟨← f 24, ← f 25, ← f 26⟩,
         servos := ⟨← w 27, ← w 28, ← w 29, ← w 30⟩,
         airspeed := ← f 31, windSpeed := ← f 32, windAngle := ← f 33, sailAngle := ← f 34,
         forceFwd := ← f 35, forceHeel := ← f 36, wavePhase := ← f 37, waveHeave := ← f 38,
         rollRate := ← f 39 }

namespace Database

/-- The bytes of a database file. -/
def toBytes (db : Database) : ByteArray :=
  let body : Json := .object [("migrated", .bool db.migrated),
    ("lastRunId", Json.nat db.lastRunId), ("lastSampleId", Json.nat db.lastSampleId),
    ("runs", .array (db.runs.map StoredRun.row)),
    ("samples", .array (db.samples.map StoredSample.row))]
  fileHeader ++ (Json.render false body).toUTF8

/-- The database a file holds, if it holds one. -/
def ofBytes? (data : ByteArray) : Option Database :=
  if data.size == 0 then some {} else
  if data.extract 0 fileHeader.size != fileHeader then none else
  match Json.parse (Text.decodeLossy (data.extract fileHeader.size data.size)) with
  | .ok body => do
    let .bool migrated ← body.find? "migrated" | none
    let lastRunId ← natOf? (← body.find? "lastRunId")
    let lastSampleId ← natOf? (← body.find? "lastSampleId")
    let .array rs ← body.find? "runs" | none
    let .array ss ← body.find? "samples" | none
    some { migrated, lastRunId, lastSampleId, runs := ← rs.mapM StoredRun.ofRow?,
           samples := ← ss.mapM StoredSample.ofRow? }
  | .error _ => none

end Database

/-- A database connection: the database and the file that holds it, if any. -/
structure Connection where
  db : Database
  file : Option String := none

namespace Connection

/-- Opens the database file at `path`, creating it when missing. -/
def openFile (disk : Disk) (path : String) : Except String (Connection × Disk) :=
  let cantOpen : Except String (Connection × Disk) :=
    .error "unable to open database file: out of memory (14)"
  match disk.lookup (disk.resolve path) with
  | .ok .dir => cantOpen
  | .ok (.file data) =>
    match Database.ofBytes? data with
    | some db =>
      let disk := if data.size == 0 then (disk.writeFile path db.toBytes).toOption.getD disk else disk
      .ok (⟨db, some path⟩, disk)
    | none => .error "error setting PRAGMA: file is not a database (26)"
  | .error _ =>
    match disk.writeFile path ({} : Database).toBytes with
    | .ok disk => .ok (⟨{}, some path⟩, disk)
    | .error _ => cantOpen

/-- Writes the database back to its file, if it has one and is open. -/
def sync (c : Connection) (disk : Disk) : Disk :=
  match c.file with
  | some path => if c.db.closed then disk else (disk.writeFile path c.db.toBytes).toOption.getD disk
  | none => disk

end Connection

/-- Makes the directory a snapshot at `path` goes into. -/
def dumpDirectory (disk : Disk) (path : String) : Except String Disk :=
  (disk.mkdirAll (Path.dir path)).mapError ("error creating dump directory: " ++ ·.message)

/-- Removes the entry at `path` that a snapshot replaces. -/
def removeOld (disk : Disk) (path : String) : Except String Disk :=
  (disk.remove path).mapError ("error removing existing DB file: " ++ ·.message)

/-- `VACUUM INTO path`: writes the database into a new file at `path`. A closed database fails
before it looks at the file, and a file that is already there and not empty is refused. -/
def vacuumInto (db : Database) (disk : Disk) (path : String) : Except String Disk :=
  if db.closed then .error "error dumping memory DB to disk: sql: database is closed" else
  match disk.stat path with
  | .ok (.file data) =>
    if data.size != 0 then
      .error "error dumping memory DB to disk: SQL logic error: output file already exists (1)"
    else (disk.writeFile path db.toBytes).mapError ("error dumping memory DB to disk: " ++ ·.message)
  | _ => (disk.writeFile path db.toBytes).mapError ("error dumping memory DB to disk: " ++ ·.message)

/-- Writes a snapshot of `db` to `path`, replacing what was there: the directory is made, an
entry at `path` removed, and the database vacuumed into `path`. A step that fails ends the
snapshot, and the steps before it stay done. -/
def dumpToDisk (db : Database) (disk : Disk) (path : String) : Except String Unit × Disk :=
  if path.isEmpty then (.error "sqlite file path not set", disk) else
  match dumpDirectory disk path with
  | .error e => (.error e, disk)
  | .ok disk =>
    let cleared := match disk.stat path with
      | .ok _ => removeOld disk path
      | .error _ => .ok disk
    match cleared with
    | .error e => (.error e, disk)
    | .ok disk => match vacuumInto db disk path with
      | .ok disk => (.ok (), disk)
      | .error e => (.error e, disk)

/-- The database files directly in `dir`, by path. -/
def listDumps (disk : Disk) (dir : String) : Except String (List String) := do
  let entries ← (disk.readDir dir).mapError (·.message)
  pure (entries.filterMap fun (name, isDir) =>
    if !isDir && name.endsWith ".db" then some (Path.join [dir, name]) else none)

end SailSim.Store
