import SailSim.Script.Scratch
import SailSim.Script.Publisher
import SailSim.Script.Archive
import SailSim.Cli.Command
import SailSim.Json.Read

/-!
# The command-line script

The script runs the program once a step, at a site, over one scratch directory filled first
from `files` (their texts filled in by the caller) and `dirs`. Each step starts the program
afresh with its arguments, which the caller expands given the directory and what the earlier
steps wrote to their output: what lasts from one step to the next is the directory and what the
servers recorded.

A step answers its exit code, output, error output, and the files its `show` patterns match:
JSON files (gzipped or not) as their value, images and databases as their first four bytes and
whether they hold any, other files (gunzipped) as their lines. The answer ends with the files
left, and what each server recorded.
-/

namespace SailSim.Script

open Json Cli Net

/-! ### Globs -/

/-- One element of a glob pattern. -/
inductive GlobToken where
  /-- `*`: any run of characters. -/
  | many
  /-- `?`: any one character. -/
  | one
  /-- `[...]`: one character of a class of characters and ranges, or not of it. -/
  | oneOf (negated : Bool) (ranges : List (Char × Char))
  | plain (c : Char)

/-- The ranges of a class, read after its `[` (and `^`) up to its `]`, and what follows; none
for a class that does not close. The first character may be `]` itself. -/
def classRanges : Nat → Bool → List Char → Option (List (Char × Char) × List Char)
  | 0, _, _ => none
  | _, _, [] => none
  | _ + 1, false, ']' :: rest => some ([], rest)
  | fuel + 1, _, lo :: '-' :: hi :: rest =>
    if hi == ']' then (classRanges fuel false ('-' :: hi :: rest)).map fun (rs, r) => ((lo, lo) :: rs, r)
    else (classRanges fuel false rest).map fun (rs, r) => ((lo, hi) :: rs, r)
  | fuel + 1, _, c :: rest => (classRanges fuel false rest).map fun (rs, r) => ((c, c) :: rs, r)

/-- The elements of a glob pattern; a class that does not close stands for its `[` alone. -/
def globTokens : Nat → List Char → List GlobToken
  | 0, _ => []
  | _, [] => []
  | fuel + 1, '*' :: p => .many :: globTokens fuel p
  | fuel + 1, '?' :: p => .one :: globTokens fuel p
  | fuel + 1, '\\' :: c :: p => .plain c :: globTokens fuel p
  | fuel + 1, '[' :: p =>
    let (negated, body) := match p with
      | '^' :: q => (true, q)
      | q => (false, q)
    match classRanges (body.length + 1) true body with
    | some (ranges, rest) => .oneOf negated ranges :: globTokens fuel rest
    | none => .plain '[' :: globTokens fuel p
  | fuel + 1, c :: p => .plain c :: globTokens fuel p

/-- Whether a name matches the elements of a glob pattern. -/
def tokensMatch : List GlobToken → List Char → Bool
  | [], name => name.isEmpty
  | .many :: p, name => (List.range (name.length + 1)).any fun i => tokensMatch p (name.drop i)
  | .one :: p, _ :: name => tokensMatch p name
  | .oneOf negated ranges :: p, c :: name =>
    (ranges.any fun (lo, hi) => lo ≤ c && c ≤ hi) != negated && tokensMatch p name
  | .plain d :: p, c :: name => c == d && tokensMatch p name
  | _ :: _, [] => false

/-- Whether a name matches one element of a glob pattern: `*` matches any run of characters,
`?` any one, `[...]` one of a class, and a backslash makes the next character plain. -/
def globMatch (pattern name : List Char) : Bool :=
  tokensMatch (globTokens pattern.length pattern) name

/-- Whether a relative path matches a pattern, element by element. -/
def pathMatches (pattern path : String) : Bool :=
  let ps := pattern.splitOn "/"
  let ns := path.splitOn "/"
  ps.length == ns.length && (ps.zip ns).all fun (p, n) => globMatch p.toList n.toList

/-- Every file and directory below the scratch directory matching a pattern, by relative
path, sorted. -/
def globPaths (site : Site) (disk : Disk) (pattern : String) : List String :=
  let rel := disk.nodes.filterMap fun (q, _) => Path.relativeTo site.scratch q
  (rel.filter (pathMatches pattern)).mergeSort fun a b => decide (a ≤ b)

/-! ### Showing files -/

/-- The extensions of files shown by their first bytes. -/
def binaryExtensions : List String := [".png", ".jpg", ".jpeg", ".svg", ".pdf", ".eps", ".tif", ".tiff", ".db"]

/-- The length of the UTF-8 sequence a byte leads, none for a byte that leads none. -/
def sequenceLength (b : UInt8) : Option Nat :=
  if b < 0x80 then some 1
  else if 0xC2 ≤ b && b ≤ 0xDF then some 2
  else if 0xE0 ≤ b && b ≤ 0xEF then some 3
  else if 0xF0 ≤ b && b ≤ 0xF4 then some 4
  else none

/-- Bytes as text, each run of bytes that are not UTF-8 written as one `?`. -/
def validText (bs : List UInt8) : String :=
  let rec go (fuel : Nat) (bad : Bool) (bs : List UInt8) (acc : String) : String :=
    match fuel, bs with
    | 0, _ => acc
    | _, [] => acc
    | fuel + 1, b :: rest =>
      let decoded := (sequenceLength b).bind fun n =>
        (String.fromUTF8? (ByteArray.mk (b :: rest.take (n - 1)).toArray)).bind fun s =>
          if (b :: rest).length ≥ n then some (s, n) else none
      match decoded with
      | some (s, n) => go fuel false ((b :: rest).drop n) (acc ++ s)
      | none => go fuel true rest (if bad then acc else acc ++ "?")
  go bs.length false bs ""

/-- The lines of a text, without the empty one after a final line break. -/
def textLines (t : String) : List String :=
  let ls := (t.replace "\r\n" "\n").splitOn "\n"
  if ls.getLast? == some "" then ls.dropLast else ls

/-- How a file is shown. -/
def showFile (site : Site) (disk : Disk) (rel : String) : Json :=
  let path := site.path rel
  let unreadable (e : String) : Json := .object [("error", .string e)]
  match disk.readFile path with
  | .error e => unreadable e.message
  | .ok data =>
    let gunzipped : Except String ByteArray :=
      if rel.endsWith ".gz" then (Gzip.decompress data).mapError (·.message) else .ok data
    if rel.endsWith ".json" || rel.endsWith ".json.gz" then
      match gunzipped with
      | .error e => unreadable e
      | .ok text => match Json.parse (Text.decodeLossy text) with
        | .ok j => j
        | .error e => unreadable e.message
    else if binaryExtensions.any fun e => rel.endsWith e then
      .object [("magic", .string (validText (data.toList.take 4))), ("nonEmpty", .bool (data.size > 0))]
    else
      match gunzipped with
      | .error e => unreadable e
      | .ok text => .array ((textLines (Text.decodeLossy text)).map .string)

/-! ### Steps -/

/-- How the script runs the program: at `site`, with the servers `services`, each step starting
at the wall-clock time `clock`; the `n`th step gives a new run the UUID `fresh n`, and an
argument is passed as `expand` makes it, given the directory and the output of the steps before. -/
structure Session where
  site : Site
  services : Services
  clock : Instant
  fresh : Nat → String
  expand : Disk → List String → String → String

/-- What the script carries from step to step. -/
structure CliState where
  disk : Disk
  services : Services
  /-- What each step wrote to its output, in order. -/
  outputs : List String := []
  answers : List Json := []

/-- Runs one step. -/
def cliStep (ses : Session) (st : CliState) (s : Fields) : Outcome CliState := do
  let args ← s.decode (Decoder.list "[]string" Decoder.string "") [] "args"
  let patterns ← s.decode (Decoder.list "[]string" Decoder.string "") [] "show"
  let args := args.map (ses.expand st.disk st.outputs)
  let m : Machine := { disk := st.disk, services := st.services, clock := ses.clock,
                       fresh := ses.fresh (st.answers.length + 1) }
  let x := runProgram args m
  let shown := patterns.flatMap fun p => (globPaths ses.site x.disk p).map fun rel =>
    (rel, showFile ses.site x.disk rel)
  let answer := Json.object ([("exit", Json.nat x.code), ("stdout", .string x.stdout),
    ("stderr", .array (x.stderr.map .string))] ++
    (if s.has "show" then [("show", Json.object shown)] else []))
  pure { disk := x.disk, services := x.services, outputs := st.outputs ++ [x.stdout],
         answers := st.answers ++ [answer] }

/-- A broker request as the command-line broker records it. -/
def brokerRecord : Telemetry.Request → Json
  | .disconnect _ => .object [("disconnect", .bool true)]
  | r => requestJson r

/-- The command-line script: `fill` fills in the texts of `files`. -/
def cliScript (ses : Session) (fill : String → String) (r : Fields) : Outcome Json := do
  let fakes ← r.record "fakes" "main.Fakes"
  let archive : Archive.Server :=
    { healthStatus := ← statusOf fakes "health", uploadStatus := ← statusOf fakes "upload" }
  let viewer : Live.Viewer := { dropsAfterEnd := ← fakes.flag "drop", noisy := ← fakes.flag "noise" }
  let services := { ses.services with archive, viewer }
  let disk ← ses.site.disk r fill
  let steps ← r.records "steps" "main.CliStep"
  let st ← steps.foldlM (cliStep ses) { disk, services }
  let sv := st.services
  pure (.object [("steps", .array st.answers),
    ("files", .array ((st.disk.files.filter fun p => ((p.splitOn "/").getLastD "") != "status.json").map .string)),
    ("servers", .object [
      ("archive", .array (sv.archive.exchanges.toList.map (·.toJson))),
      ("websocket", .array (sv.viewer.events.toList.map (·.toJson))),
      ("mqtt", .array ((sv.broker.map (·.requests.toList)).getD [] |>.map brokerRecord))])])

end SailSim.Script
