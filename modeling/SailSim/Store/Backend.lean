import SailSim.Store.Database
import SailSim.Queue

/-!
# Writing runs to a database in batches

The database store queues the samples of the active run and writes them in batches of at most
`batchSize` when it flushes: when the run ends and when the store closes (a writer in the
background may flush too, on its own schedule). Without a database the samples only queue.

* Starting a run stores its row (a run without a UUID gets `fresh`) and makes it active.
* A sample outside a run is refused with `no active run`; inside one, it is queued for the
  run's row and drawn into the run's track.  A store never set up has no queue, and pushing a
  sample of a run onto it dereferences nothing: the store panics (`RecordError.noQueue`).
* Ending a run leaves no run active, flushes, and stores the run's track and summary; without a
  summary the run is only marked ended. A failed flush ends the run without storing it.
* A batch that fails to insert is lost, and the flush stops with `insert N samples: …`.
* Closing flushes once; closing again, or before the store was set up, does nothing.
* Setting the store up creates the tables; a database that cannot create them fails with
  `failed to migrate schema: …`, the queue set up all the same.
-/

namespace SailSim.Store

/-- A database store. -/
structure Backend where
  db : Option Database
  batchSize : Nat := 2000
  /-- The queued samples; none before the store is set up. -/
  queue : Option (Queue StoredSample) := none
  run : Option StoredRun := none
  track : Geo.Track := {}
  stopped : Bool := false

namespace Backend

/-- A store over `db` writing batches of `batchSize`, the default 2000 when it is zero. -/
def new (db : Option Database) (batchSize : Nat) : Backend :=
  { db, batchSize := if batchSize == 0 then 2000 else batchSize }

/-- Sets up the store: an empty queue, and the tables. A store set up again starts over with
an empty queue and can be closed again. -/
def init (b : Backend) : Except String Unit × Backend :=
  let b := { b with queue := some {}, stopped := false }
  match b.db with
  | none => (.ok (), b)
  | some db => match db.migrate with
    | .ok db => (.ok (), { b with db := some db })
    | .error e => (.error ("failed to migrate schema: " ++ e.message), b)

/-- Writes every queued sample in batches. -/
def flush (b : Backend) : Except String Unit × Backend :=
  match b.db, b.queue with
  | some db, some q =>
    let rec go (fuel : Nat) (db : Database) (q : Queue StoredSample) :
        Except String Unit × Database × Queue StoredSample :=
      match fuel with
      | 0 => (.ok (), db, q)
      | fuel + 1 =>
        let (batch, q) := q.drain b.batchSize
        if batch.isEmpty then (.ok (), db, q) else
        match db.insertSamples batch with
        | .ok db => go fuel db q
        | .error e => (.error s!"insert {batch.length} samples: {e.message}", db, q)
    let (r, db, q) := go (q.length + 1) db q
    (r, { b with db := some db, queue := some q })
  | _, _ => (.ok (), b)

/-- Starts a run and returns its stored form. -/
def startRun (b : Backend) (r : Run) (fresh : Uuid) : Except String (StoredRun × Backend) := do
  let m ← StoredRun.ofRun r fresh
  let (m, b) ← match b.db with
    | none => pure (m, b)
    | some db => match db.insertRun m with
      | .ok (id, db) => pure ({ m with id }, { b with db := some db })
      | .error e => .error ("insert run: " ++ e.message)
  pure (m, { b with run := some m, track := {} })

/-- Why a sample is not queued. -/
inductive RecordError where
  /-- No run is active: an error. -/
  | noActiveRun
  /-- The store was never set up, so there is no queue to push to: a nil dereference, which
  panics. -/
  | noQueue
  deriving Repr, DecidableEq

/-- The error's text, or the panic's. -/
def RecordError.message : RecordError → String
  | .noActiveRun => "no active run"
  | .noQueue => "runtime error: invalid memory address or nil pointer dereference"

/-- Queues a sample of the active run. -/
def recordStep (b : Backend) (s : StepSample) : Except RecordError Backend :=
  match b.run with
  | none => .error .noActiveRun
  | some r =>
    match b.queue with
    | none => .error .noQueue
    | some q =>
      .ok { b with track := b.track.add s.state.position s.state.location,
                   queue := some (q.push [StoredSample.ofSample r.id s]) }

/-- Ends the active run with its summary, if it has one. -/
def endRun (b : Backend) (summary : Option RunSummary) : Except String Unit × Backend :=
  match b.run with
  | none => (.error "no active run", b)
  | some r =>
    let b := { b with run := none }
    match b.flush with
    | (.error e, b) => (.error e, b)
    | (.ok (), b) =>
      let r := { r with
        track := b.track.lineString
        summary := match summary with
          | some s => Store.RunSummary.toStored s
          | none => { r.summary with ended := true } }
      match b.db with
      | none => (.ok (), b)
      | some db => match db.saveRun r with
        | .ok db => (.ok (), { b with db := some db })
        | .error e => (.error ("update run: " ++ e.message), b)

/-- The number of queued samples. -/
def pending (b : Backend) : Nat := (b.queue.map Queue.length).getD 0

/-- Stops the store, flushing what is queued. -/
def close (b : Backend) : Except String Unit × Backend :=
  if b.queue.isNone || b.stopped then (.ok (), b)
  else ({ b with stopped := true }).flush

end Backend

end SailSim.Store
