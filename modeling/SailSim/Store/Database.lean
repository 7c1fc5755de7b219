import SailSim.Store.Record

/-!
# The run database

A run database has two tables, runs and samples, which exist once the schema has been set up.
Rows get increasing identifiers: one more than the largest identifier the table ever held.
Run UUIDs are unique. Once closed, every statement fails with `sql: database is closed`.

Reading a run back checks its track: a stored track of two or more points that all lie on the
same longitude and latitude cannot be read, and listing runs reports that failure once for
every such run, newest first, joined by `; `.
-/

namespace SailSim.Store

/-- Why a statement failed. -/
inductive DbError where
  | closed
  | noTable (name : String)
  | duplicate (column : String) (code : Nat)
  | notFound
  | badTrack (errors : List String)
  deriving Repr, BEq

/-- The database's message. -/
def DbError.message : DbError → String
  | .closed => "sql: database is closed"
  | .noTable t => "SQL logic error: no such table: " ++ t ++ " (1)"
  | .duplicate c code => s!"constraint failed: UNIQUE constraint failed: {c} ({code})"
  | .notFound => "record not found"
  | .badTrack es => "; ".intercalate es

/-- The runs and samples of a database. -/
structure Database where
  runs : List StoredRun := []
  samples : List StoredSample := []
  /-- Whether the tables exist. -/
  migrated : Bool := false
  lastRunId : Nat := 0
  lastSampleId : Nat := 0
  closed : Bool := false

namespace Database

/-- Fails when the database is closed or its tables do not exist. -/
def ready (db : Database) (table : String) : Except DbError Unit :=
  if db.closed then .error .closed
  else if !db.migrated then .error (.noTable table)
  else .ok ()

/-- Creates the tables. -/
def migrate (db : Database) : Except DbError Database :=
  if db.closed then .error .closed else .ok { db with migrated := true }

/-- Inserts a run; a run without an identifier gets the next one. Returns the identifier. -/
def insertRun (db : Database) (r : StoredRun) : Except DbError (Nat × Database) := do
  db.ready "runs"
  if db.runs.any (·.uuid == r.uuid) then .error (.duplicate "runs.uuid" 2067)
  if r.id != 0 && db.runs.any (·.id == r.id) then .error (.duplicate "runs.id" 1555)
  let id := if r.id == 0 then db.lastRunId + 1 else r.id
  pure (id, { db with runs := db.runs ++ [{ r with id }], lastRunId := max db.lastRunId id })

/-- Stores a run over the row with its identifier, or inserts it when there is none. -/
def saveRun (db : Database) (r : StoredRun) : Except DbError Database := do
  db.ready "runs"
  if db.runs.any (·.id == r.id) then
    pure { db with runs := db.runs.map fun x => if x.id == r.id then r else x }
  else
    let (_, db) ← db.insertRun r
    pure db

/-- Inserts samples, each with the next identifier. -/
def insertSamples (db : Database) (ms : List StoredSample) : Except DbError Database := do
  db.ready "step_samples"
  let (rows, last) := ms.foldl (fun (acc, n) m => (acc.push { m with id := n + 1 }, n + 1))
    (#[], db.lastSampleId)
  pure { db with samples := db.samples ++ rows.toList, lastSampleId := last }

/-- Why a stored track cannot be read back, if it cannot. -/
def trackError (t : Geo.LineString) : Option String :=
  t.oneDistinctPoint?.map ("sql: Scan error on column index 12, name \"track\": scanning as WKB: " ++ ·)

/-- Runs as read back: each row's track checked. -/
def readRuns (rs : List StoredRun) : Except DbError (List StoredRun) :=
  match rs.filterMap (fun r => trackError r.track) with
  | [] => .ok rs
  | es => .error (.badTrack es)

/-- Every run, newest first. -/
def listRuns (db : Database) : Except DbError (List StoredRun) := do
  db.ready "runs"
  readRuns (db.runs.mergeSort fun a b => decide (a.id ≥ b.id))

/-- The first run with a UUID. -/
def loadRun (db : Database) (u : Uuid) : Except DbError StoredRun := do
  db.ready "runs"
  match (db.runs.mergeSort fun a b => decide (a.id ≤ b.id)).find? (·.uuid == u) with
  | some r => match readRuns [r] with
    | .ok _ => pure r
    | .error e => .error e
  | none => .error .notFound

/-- The samples of a run, by step. -/
def loadSamples (db : Database) (runId : Nat) : Except DbError (List StoredSample) := do
  db.ready "step_samples"
  pure ((db.samples.filter (·.runId == runId)).mergeSort fun a b => decide (a.step ≤ b.step))

/-- Closes the database. -/
def close (db : Database) : Database := { db with closed := true }

end Database

end SailSim.Store
