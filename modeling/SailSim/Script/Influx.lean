import SailSim.Script.Scratch
import SailSim.Influx.Link

/-!
# The telemetry link script

The script drives a telemetry link (`Influx.Link`) over a scratch directory, with a server
that takes written lines unless it is told to refuse them with `writeStatus`. Commands:

* `url`, `connect`, `client` (a client that reaches the server), `createWriters`;
* `sample`, `summary`, and `write` (a sample's point to a named bucket), each writing a point;
* `stateLine`, `summaryLine`: a point in the backup form, without writing it;
* `close`.

The link is closed once more at the end unless a command closed it. The answer holds the
command answers, the lines the server took by bucket, and the lines of the backup file when
it exists.
-/

namespace SailSim.Script

open Json Influx Config

/-- A link, the lines the server took by bucket, and the scratch directory. -/
structure LinkState where
  link : Link
  /-- Whether the server refuses written lines. -/
  refuses : Bool
  taken : List (String × Array String) := []
  disk : Disk
  closed : Bool := false

/-- The state after closing the link: the lines handed over are taken unless refused. -/
def LinkState.close (st : LinkState) : LinkState :=
  let (sent, link, disk) := st.link.close st.disk
  let taken := if st.refuses then st.taken else
    sent.foldl (fun acc (b, ls) => match acc.lookup b with
      | some old => acc.map fun (k, v) => (k, if k == b then old ++ ls else v)
      | none => acc ++ [(b, ls)]) st.taken
  { st with link, disk, taken, closed := true }

/-- The answer of a write. -/
def written (st : LinkState) (r : Except WriteError Link) : Json × LinkState :=
  match r with
  | .ok link => (.string "ok", { st with link })
  | .error e => (errorReply "error" e.message, st)

/-- The link's settings as requests give them. -/
def linkSettings (c : Fields) : Outcome InfluxSettings := do
  pure ⟨← c.flag "enabled", ← c.text "host", ← c.text "port", ← c.text "protocol",
    ← c.text "token", ← c.text "org", ← c.text "bucket"⟩

/-- Runs one command on the link. -/
def linkCommand (run : Run) (st : LinkState) (o : Fields) : Outcome (Json × LinkState) := do
  let l := st.link
  if o.has "url" then pure (.string l.url, st)
  else if o.has "connect" then
    let (r, link, disk) := l.connect st.disk
    pure (.object [("result", done r), ("isValid", .bool link.valid),
      ("backup", .bool link.backup.isSome)], { st with link, disk })
  else if o.has "client" then pure (.string "ok", { st with link := l.useServer })
  else if o.has "createWriters" then
    match l.createWriters with
    | some link => pure (.string "ok", { st with link })
    | none => badInput "createWriters needs a client"
  else if o.has "sample" then
    let s ← (← o.record "sample" "main.SampleSpec").sample ""
    pure (written st (l.writePoint l.settings.bucket (statePoint run s)))
  else if o.has "write" then
    let w ← o.record "write" "main.WriteSpec"
    let s ← (← w.record "sample" "main.SampleSpec").sample ""
    pure (written st (l.writePoint (← w.text "bucket") (statePoint run s)))
  else if o.has "summary" then
    let sm ← (← o.record "summary" "main.SummarySpec").summary
    pure (written st (l.writePoint l.settings.bucket (summaryPoint run sm)))
  else if o.has "stateLine" then
    let s ← (← o.record "stateLine" "main.SampleSpec").sample ""
    pure (.string (statePoint run s).line, st)
  else if o.has "summaryLine" then
    let sm ← (← o.record "summaryLine" "main.SummarySpec").summary
    pure (.string (summaryPoint run sm).line, st)
  else if o.has "close" then pure (.string "ok", st.close)
  else badInput "empty influx op"

/-- The lines of a gzip file, when it can be read. -/
def gzipLines (data : ByteArray) : Option Json :=
  match Gzip.decompress data with
  | .ok text =>
    some (.array (((Text.decodeLossy text).splitOn "\n").filter (!·.isEmpty) |>.map .string))
  | .error _ => none

/-- The telemetry link script. -/
def influxScript (site : Site) (r : Fields) : Outcome Json := do
  let settings ← linkSettings (← r.record "cfg" "config.InfluxConfig")
  let backup ← r.text "backup"
  let backupPath := if backup.isEmpty then "" else site.path backup
  let link := Link.new settings backupPath
  let buckets ← r.decode (Decoder.list "[]string" Decoder.string "") [] "buckets"
  let link := if r.absent "buckets" then link else { link with buckets }
  let _ ← r.integer "batchSize"
  let refuses := (← r.integer "writeStatus") != 0
  let run ← (← r.record "run" "main.RunSpec").run
  let st : LinkState := { link, refuses, disk := site.emptyDisk }
  let (answers, st) ← runCommands (linkCommand run) st (← r.records "ops" "main.InfluxOp")
  let st := if st.closed then st else st.close
  let lines := Json.object (st.taken.map fun (b, ls) =>
    (b, .array (ls.toList.map fun l => .string (l.dropEndWhile (· == '\n')).copy)))
  let backupLines := if backup.isEmpty then none else
    match st.disk.readFile backupPath with
    | .ok data => gzipLines data
    | .error _ => none
  pure (.object ([("results", .array answers), ("requests", .array []),
    ("lines", lines)] ++ (backupLines.map fun b => ("backup", b)).toList))

end SailSim.Script
