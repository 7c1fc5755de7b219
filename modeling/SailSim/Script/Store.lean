import SailSim.Script.Scratch
import SailSim.Store.Backend
import SailSim.Store.File

/-!
# Scripts for run databases

Three scripts drive the database side of run storage, each at a site of its own (`Site`).

* `storeScript` drives a database store (`Store.Backend`) over a fresh database, or over
  none, which only queues samples. Besides the store's own commands it dumps the database
  to a file, lists the dumps, and reads runs and samples back.
* `snapshotScript` drives the store that keeps its database in memory or in a file and
  writes a snapshot to its dump path whenever a run ends.
* `databaseScript` opens database files, lists dumps and drives a connection manager, which
  falls back to the shared in-memory database when the server cannot be reached.

Every command answers one element of the answer list; an error of the component is an error
object in that list, a malformed command stops the whole request.
-/

namespace SailSim.Script

open Json Store

/-- The identifier and UUID of a started run. -/
def startedRun (m : StoredRun) : Json :=
  .object [("id", Json.nat m.id), ("uuid", .string m.uuid.toString)]

/-- A run as listed. -/
def listedRun (r : StoredRun) : Json :=
  .object [("id", Json.nat r.id), ("uuid", .string r.uuid.toString), ("name", .string r.name),
    ("track", .string r.track.wkt), ("home", .string r.home.wkt),
    ("ended", .bool r.summary.ended), ("steps", Json.nat r.summary.steps),
    ("distance", num r.summary.distance)]

/-- A run as loaded. -/
def loadedRun (r : StoredRun) : Json :=
  .object [("id", Json.nat r.id), ("name", .string r.name), ("frame", .string r.frame),
    ("config", .string r.config)]

/-- A sample as loaded. -/
def loadedSample (m : StoredSample) : Json :=
  .object [("step", Json.nat m.step), ("local", vec m.offset), ("position", .string m.position.wkt)]

/-- The `.db` files directly in `dir`, or the error reading it. -/
def dumpsIn (disk : Disk) (dir : String) : Json :=
  match listDumps disk dir with
  | .ok ps => .array (ps.map .string)
  | .error e => errorReply "error" e

/-- A database store and the disk of its site. -/
structure StoreState where
  backend : Backend
  disk : Disk

/-- Runs one command of the database store. -/
def storeCommand (site : Site) (st : StoreState) (o : Fields) : Outcome (Json × StoreState) := do
  let b := st.backend
  let withDb (f : Database → Outcome (Json × StoreState)) : Outcome (Json × StoreState) :=
    match b.db with
    | some db => f db
    | none => pure (.string "no db", st)
  if o.has "init" then
    let (r, b) := b.init
    pure (done r, { st with backend := b })
  else if o.has "startRun" then
    let run ← (← o.record "startRun" "main.RunSpec").run
    match b.startRun run (Uuid.parse site.fresh |>.toOption.getD ⟨[]⟩) with
    | .ok (m, b) => pure (startedRun m, { st with backend := b })
    | .error e => pure (errorReply "error" e, st)
  else if o.has "record" then
    match b.recordStep (← (← o.record "record" "main.SampleSpec").sample "") with
    | .ok b => pure (.string "ok", { st with backend := b })
    | .error .noActiveRun => pure (errorReply "error" Backend.RecordError.noActiveRun.message, st)
    | .error .noQueue => fail "panic" Backend.RecordError.noQueue.message
  else if o.has "endRun" then
    let (r, b) := b.endRun (← (← o.record "endRun" "main.EndRunSpec").summary?)
    pure (done r, { st with backend := b })
  else if o.has "pending" then pure (Json.nat b.pending, st)
  else if o.has "close" then
    let (r, b) := b.close
    pure (done r, { st with backend := b })
  else if o.has "dump" then
    let path ← o.text "dump"
    withDb fun db =>
      let (r, disk) := dumpToDisk db st.disk (if path.isEmpty then "" else site.path path)
      pure (done r, { st with disk })
  else if o.has "listDumps" then pure (dumpsIn st.disk site.scratch, st)
  else if o.has "listRuns" then
    withDb fun db => pure (match db.listRuns with
      | .ok rs => .array (rs.map listedRun)
      | .error e => errorReply "error" ("list runs: " ++ e.message), st)
  else if o.has "loadRun" then
    let text ← o.text "loadRun"
    withDb fun db => pure (match Uuid.parse text with
      | .error e => errorReply "error" ("run uuid: " ++ e.message)
      | .ok u => match db.loadRun u with
        | .ok r => loadedRun r
        | .error e => errorReply "error" ("load run " ++ text ++ ": " ++ e.message), st)
  else if o.has "samples" then
    let id ← o.count "samples"
    withDb fun db => pure (match db.loadSamples id with
      | .ok ms => .array (ms.map loadedSample)
      | .error e => errorReply "error" (s!"load samples of run {id}: " ++ e.message), st)
  else if o.has "closeDB" then
    withDb fun db => pure (.string "ok", { st with backend := { b with db := some db.close } })
  else badInput "empty gorm op"

/-- The database store script: `db` is `none` (or missing) for a store without a database,
or `sqlite` for a fresh in-memory database; `batchSize` 0 keeps the default. -/
def storeScript (site : Site) (r : Fields) : Outcome Json := do
  let db ← match ← r.text "db" with
    | "" | "none" => pure none
    | "sqlite" => pure (some {})
    | other => badInput ("unknown db " ++ other)
  let batch ← r.integer "batchSize"
  let st : StoreState := ⟨Backend.new db batch.toNat, site.emptyDisk⟩
  let (answers, _) ← runCommands (storeCommand site) st (← r.records "ops" "main.GormOp")
  pure (.array answers)

/-- A snapshotting store: the database store, its connection, and where snapshots go. -/
structure SnapshotState where
  store : StoreState
  conn : Connection
  dumpPath : String

/-- Writes a snapshot to the dump path, if there is one. -/
def SnapshotState.dump (st : SnapshotState) (site : Site) : Except String Unit × SnapshotState :=
  if st.dumpPath.isEmpty then (.ok (), st) else
  match st.store.backend.db with
  | none => (.ok (), st)
  | some db =>
    let (r, disk) := dumpToDisk db st.store.disk (site.path st.dumpPath)
    (r, { st with store := { st.store with disk } })

/-- Writes the database back to its file, if it has one. -/
def SnapshotState.sync (st : SnapshotState) : SnapshotState :=
  match st.store.backend.db with
  | some db =>
    { st with store := { st.store with disk := ({ st.conn with db } : Connection).sync st.store.disk } }
  | none => st

/-- Runs one command of the snapshotting store. -/
def snapshotCommand (site : Site) (st : SnapshotState) (o : Fields) : Outcome (Json × SnapshotState) := do
  let b := st.store.backend
  let (j, st) ← if o.has "endRun" then
      let sm ← (← o.record "endRun" "main.SummarySpec").summary
      let (r, b) := b.endRun (some sm)
      let st := { st with store := { st.store with backend := b } }
      match r with
      | .error e => pure (done (.error e), st)
      | .ok () =>
        let (r, st) := st.sync.dump site
        pure (done r, st)
    else if o.has "dump" then
      let (r, st) := st.sync.dump site
      pure (done r, st)
    else if o.has "files" then pure (scratchFiles st.store.disk, st)
    else if ["init", "startRun", "record", "pending", "close"].any o.has then
      let (j, s) ← storeCommand site st.store o
      pure (j, { st with store := s })
    else badInput "empty sqlite op"
  pure (j, st.sync)

/-- The snapshotting store script: `dsn` is a database file in the scratch directory, or
empty for a private in-memory database; `dumpPath` is where snapshots go. -/
def snapshotScript (site : Site) (r : Fields) : Outcome Json := do
  let disk ← site.disk r
  let dsn ← r.text "dsn"
  let (conn, disk) ← if dsn.isEmpty then pure (({ db := {} } : Connection), disk) else
    match Connection.openFile disk (site.path dsn) with
    | .ok cd => pure cd
    | .error e => fail "error" ("failed to create in-memory SQLite DB: " ++ e)
  let st : SnapshotState := ⟨⟨Backend.new (some conn.db) 0, disk⟩, conn, ← r.text "dumpPath"⟩
  let (answers, _) ← runCommands (snapshotCommand site) st (← r.records "ops" "main.SqliteOp")
  pure (.array answers)

/-- The connection string of a database server. -/
def serverDsn (host port user password database : String) : String :=
  "host=" ++ host ++ " port=" ++ port ++ " user=" ++ user ++ " password=" ++ password ++
    " dbname=" ++ database ++ " sslmode=disable"

/-- A connection manager: the database it connected to, if any. -/
structure Manager where
  db : Option Database := none

/-- The state of the database script. -/
structure DatabaseState where
  disk : Disk
  manager : Option Manager := none

/-- Runs one command of the database script. -/
def databaseCommand (site : Site) (st : DatabaseState) (o : Fields) : Outcome (Json × DatabaseState) := do
  let needManager : Outcome Manager := match st.manager with
    | some m => pure m
    | none => badInput "no manager"
  if o.has "dsn" then
    let c ← o.record "dsn" "config.DBConfig"
    pure (.string (serverDsn (← c.text "Host") (← c.text "Port") (← c.text "Username")
      (← c.text "Password") (← c.text "Database")), st)
  else if o.has "openSQLite" then
    let path ← o.text "openSQLite"
    if path.isEmpty then pure (.string "ok", st) else
    match Connection.openFile st.disk (site.path path) with
    | .ok (_, disk) => pure (.string "ok", { st with disk })
    | .error e => pure (errorReply "error" e, st)
  else if o.has "listDumps" then
    let path ← o.text "listDumps"
    pure (dumpsIn st.disk (if path.isEmpty then "" else site.path path), st)
  else if o.has "manager" then
    pure (.string "ok", { st with manager := some {} })
  else if o.has "connect" then
    let m ← needManager
    let db := match m.db with
      | some db => if db.closed then {} else db
      | none => {}
    pure (.object [("result", .string "ok"), ("isValid", .bool true),
      ("shouldSaveLocal", .bool true), ("dialect", .string "sqlite")],
      { st with manager := some { db := some db } })
  else if o.has "setup" then
    let m ← needManager
    let db := m.db.getD {}
    match db.migrate with
    | .ok db => pure (.object [("result", .string "ok"), ("isValid", .bool true)],
        { st with manager := some { db := some db } })
    | .error e => pure (.object [("result", errorReply "error" ("failed to migrate schema: " ++ e.message)),
        ("isValid", .bool false)], st)
  else if o.has "close" then
    let m ← needManager
    pure (.string "ok", { st with manager := some { db := m.db.map Database.close } })
  else if o.has "dump" then
    let m ← needManager
    let path ← o.text "dump"
    let (r, disk) := dumpToDisk (m.db.getD {}) st.disk (if path.isEmpty then "" else site.path path)
    pure (done r, { st with disk })
  else if o.has "files" then pure (scratchFiles st.disk, st)
  else badInput "empty database op"

/-- The database script. -/
def databaseScript (site : Site) (r : Fields) : Outcome Json := do
  let st : DatabaseState := ⟨← site.disk r, none⟩
  let (answers, _) ← runCommands (databaseCommand site) st (← r.records "ops" "main.DatabaseOp")
  pure (.array answers)

end SailSim.Script
