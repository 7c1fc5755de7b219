import SailSim.Influx.Line
import SailSim.Config.Program
import SailSim.Disk.Basic
import SailSim.Gzip

/-!
# The telemetry link to the time-series server

A link writes points to buckets of the server when a client reaches it, and otherwise to a
gzip backup file of line-protocol lines.

* Connecting needs the link to be enabled. Here the server never answers, so connecting
  leaves a client that cannot reach it, marks the link not valid, and opens the backup file
  for appending (created when missing) unless a backup writer is already open.
* A client that reaches the server marks the link valid. Writers are made per bucket and
  cached per client: asking a client again for a bucket's writer gives the same one.
* A point written to a valid link goes to its bucket's writer, which holds it in the server's
  form until the link is closed; a bucket with no writer is an error. A point written to a link
  that is not valid goes to the backup writer in the backup form, or is an error without one.
* Closing flushes every writer: the lines of a writer whose client reaches the server are
  handed over, the rest are lost. Then the backup writer's lines are appended to the backup
  file as one gzip member, and the backup writer is gone.
-/

namespace SailSim.Influx

open Config

/-- A client of the server, numbered in the order clients were made. -/
structure ClientRef where
  serial : Nat
  /-- Whether the client reaches the server. -/
  reachable : Bool
  deriving Repr, BEq, Inhabited

/-- A bucket's writer: its client and the lines it holds. -/
structure Writer where
  client : ClientRef
  pending : Array String := #[]
  deriving Inhabited

/-- Why a point was not written. -/
inductive WriteError where
  | unknownBucket (bucket : String)
  | noBackup
  deriving Repr, BEq

/-- The message of a write error. -/
def WriteError.message : WriteError → String
  | .unknownBucket b => "influxDB bucket '" ++ b ++ "' not registered"
  | .noBackup => "influxDB client not initialized and backup writer not available"

/-- A telemetry link. -/
structure Link where
  settings : InfluxSettings
  /-- The buckets writers are made for. -/
  buckets : List String
  backupPath : String
  client : Option ClientRef := none
  /-- How many clients were made. -/
  clients : Nat := 0
  /-- Whether points go to the server. -/
  valid : Bool := false
  writers : List (String × Writer) := []
  /-- The lines of the open backup writer, if one is open. -/
  backup : Option (Array String) := none

namespace Link

/-- A link writing to the configured bucket, with its backup file at `backupPath`. -/
def new (settings : InfluxSettings) (backupPath : String) : Link :=
  { settings, buckets := [settings.bucket], backupPath }

/-- The server's address. -/
def url (l : Link) : String :=
  l.settings.protocol ++ "://" ++ l.settings.host ++ ":" ++ l.settings.port

/-- The link with a new client. -/
def withClient (l : Link) (reachable : Bool) : Link :=
  { l with client := some ⟨l.clients, reachable⟩, clients := l.clients + 1, valid := reachable }

/-- Connects to a server that does not answer: an error when the link is disabled or the
backup file cannot be opened, and otherwise the backup writer, opened if none was. -/
def connect (l : Link) (disk : Disk) : Except String Unit × Link × Disk :=
  if !l.settings.enabled then (.error "influx.enabled is false", l, disk) else
  let l := l.withClient false
  if l.backup.isSome then (.ok (), l, disk) else
  match disk.appendFile l.backupPath ByteArray.empty with
  | .error e => (.error ("error creating backup file: " ++ e.message), l, disk)
  | .ok disk => (.ok (), { l with backup := some #[] }, disk)

/-- The link with a client that reaches the server. -/
def useServer (l : Link) : Link := l.withClient true

/-- The writer a client gives for a bucket: the one it gave before, or a new one. -/
def writerFor (l : Link) (c : ClientRef) (bucket : String) : Writer :=
  match l.writers.lookup bucket with
  | some w => if w.client == c then w else { client := c }
  | none => { client := c }

/-- Makes a writer for every bucket with the link's client; none without a client. -/
def createWriters (l : Link) : Option Link := do
  let c ← l.client
  pure (l.buckets.foldl (fun l b =>
    { l with writers := (l.writers.filter (·.1 != b)) ++ [(b, l.writerFor c b)] }) l)

/-- Writes a point to a bucket. -/
def writePoint (l : Link) (bucket : String) (p : Point) : Except WriteError Link :=
  if l.valid then
    match l.writers.lookup bucket with
    | none => .error (.unknownBucket bucket)
    | some w =>
      let w := match p.wireLine with
        | some line => { w with pending := w.pending.push line }
        | none => w
      .ok { l with writers := l.writers.map fun (b, v) => (b, if b == bucket then w else v) }
  else
    match l.backup with
    | none => .error .noBackup
    | some lines => .ok { l with backup := some (lines.push p.line) }

/-- Closes the link. It answers the lines handed to the server, by bucket, and the backup file
with the backup writer's lines appended. -/
def close (l : Link) (disk : Disk) : List (String × Array String) × Link × Disk :=
  let sent := l.writers.filterMap fun (b, w) =>
    if w.client.reachable && !w.pending.isEmpty then some (b, w.pending) else none
  let flushed : List (String × Writer) := l.writers.map fun (b, w) => (b, { w with pending := #[] })
  let l := { l with writers := flushed }
  match l.backup with
  | none => (sent, l, disk)
  | some lines =>
    let member := Gzip.compress (String.join lines.toList).toUTF8
    let disk := (disk.appendFile l.backupPath member).toOption.getD disk
    (sent, { l with backup := none }, disk)

end Link

end SailSim.Influx
