import SailSim.Script.Basic
import SailSim.Disk.Basic
import SailSim.Net.Dial

/-!
# Where a script runs

A script runs at a site: a scratch directory of its own, which is also the working directory,
the network its clients dial, and the UUID a component makes up for a run that has none. The
request may fill the scratch directory first: `files` maps relative paths to text contents,
written with their parent directories, and `dirs` lists directories to create.
-/

namespace SailSim.Script

open Json

/-- Where a script runs. -/
structure Site where
  /-- The scratch directory, an absolute path. -/
  scratch : String
  network : Net.Network := default
  /-- The UUID a component makes up for a run that has none. -/
  fresh : String

namespace Site

variable (site : Site)

/-- A path relative to the scratch directory. -/
def path (p : String) : String := Path.join [site.scratch, p]

/-- The scratch directory, empty. -/
def emptyDisk : Disk := { cwd := site.scratch, nodes := [(site.scratch, .dir)] }

/-- The scratch directory with the request's `files` (each text passed through `fill`) and
`dirs`. -/
def disk (r : Fields) (fill : String → String := id) : Outcome Disk := do
  let files ← r.decode (Decoder.map "map[string]string" Decoder.string "") [] "files"
  let dirs ← r.decode (Decoder.list "[]string" Decoder.string "") [] "dirs"
  let mut disk := site.emptyDisk
  for (p, text) in files do
    let path := site.path p
    disk ← match disk.mkdirAll (Path.dir path) >>= (·.writeFile path (fill text).toUTF8) with
      | .ok d => pure d
      | .error e => fail "error" e.message
  for p in dirs do
    disk ← match disk.mkdirAll (site.path p) with
      | .ok d => pure d
      | .error e => fail "error" e.message
  pure disk

end Site

/-- The files below a disk's working directory, by relative path, sorted. -/
def scratchFiles (disk : Disk) : Json := .array (disk.files.map .string)

/-- The answer of a command that succeeded or failed with a message. -/
def done (r : Except String Unit) : Json :=
  match r with
  | .ok () => .string "ok"
  | .error e => errorReply "error" e

end SailSim.Script
