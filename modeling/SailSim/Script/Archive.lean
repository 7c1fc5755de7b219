import SailSim.Script.Scratch
import SailSim.Archive.Client

/-!
# The archive script

The script drives an archive client (`Archive.Client`) for the URL `url` with the key `key`,
over the site's network and a scratch directory filled from `files` and `dirs`. `fakes` gives
the statuses the archive answers with, `200` by default. Commands: `health`, and `upload` of a
file of the scratch directory with a run's metadata. The answer holds the command answers and
the requests the archive answered.
-/

namespace SailSim.Script

open Json Archive Net

/-- A status the request sets, `200` when it gives none. -/
def statusOf (fakes : Fields) (k : String) : Outcome Nat := do
  let n ← fakes.integer k
  pure (if n == 0 then 200 else n.toNat)

/-- The metadata of an upload. -/
def metadata (m : Fields) : Outcome Metadata := do
  let duration ← m.float "duration"
  pure { runId := ← m.text "runId", runName := ← m.text "runName", frame := ← m.text "frame",
         duration, tag := ← m.text "tag" }

/-- Runs one command on the client. -/
def archiveCommand (site : Site) (c : Client) (disk : Disk) (a : Server) (o : Fields) :
    Outcome (Json × Server) := do
  if o.has "health" then
    let (r, a) := c.healthcheck site.network a
    pure (done r, a)
  else if o.has "upload" then
    let u ← o.record "upload" "main.UploadSpec"
    let m ← metadata (← u.record "meta" "main.MetaSpec")
    let (r, a) := c.upload site.network a disk (site.path (← u.text "path")) m
    pure (done r, a)
  else badInput "empty api op"

/-- The archive script. -/
def archiveScript (site : Site) (r : Fields) : Outcome Json := do
  let url ← r.text "url"
  let fakes ← r.record "fakes" "main.Fakes"
  let a : Server := { healthStatus := ← statusOf fakes "health", uploadStatus := ← statusOf fakes "upload" }
  let disk ← site.disk r
  let c := Client.new url (← r.text "key")
  let (answers, a) ← runCommands (archiveCommand site c disk) a (← r.records "ops" "main.ApiOp")
  pure (.object [("results", .array answers), ("server", .array (a.exchanges.toList.map (·.toJson)))])

end SailSim.Script
