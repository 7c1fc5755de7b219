import SailSim.Archive.Server
import SailSim.Disk.Basic
import SailSim.Disk.Path
import SailSim.Text.Number

/-!
# The archive client

A client talks to the run archive at a base URL, with trailing slashes removed, and an API key.

* `healthcheck` asks the archive whether it is up: any status but `200` is an error.
* `upload` sends a run's export file as a form: the fields `secret` (the key), `filename`,
  `runId`, `runName`, `frame`, `duration` (with six decimals) and `tag`, then the file itself.
  The file is opened before anything is sent. A file that cannot be read, such as a directory,
  still sends the form with an empty file part; its error is the answer only when the request
  itself succeeded, since the request's own error comes first.
-/

namespace SailSim.Archive

open Net

/-- What the archive is told of an uploaded run. -/
structure Metadata where
  runId : String := ""
  runName : String := ""
  frame : String := ""
  /-- The simulated duration in seconds. -/
  duration : Float := 0
  tag : String := ""
  deriving Inhabited

/-- A client of the archive. -/
structure Client where
  baseUrl : String
  apiKey : String
  deriving Repr, Inhabited

/-- A client for the archive at `baseUrl`. -/
def Client.new (baseUrl apiKey : String) : Client :=
  ⟨(baseUrl.dropEndWhile (· == '/')).copy, apiKey⟩

/-- Sends a request to the archive: the status, or the request's error. -/
def exchange (net : Network) (a : Server) (method : Method) (u : Url)
    (form : Option (List Part)) : Except String Nat × Server :=
  Http.send net method u a fun peer a =>
    if peer == .archive then a.answer method (Http.serverPath u) form else (404, a)

/-- The error of a status other than `200`. -/
def statusCheck (what : String) : Except String Nat → Except String Unit
  | .ok 200 => .ok ()
  | .ok n => .error (what ++ " returned status " ++ toString n)
  | .error e => .error (what ++ " request failed: " ++ e)

namespace Client

/-- Checks that the archive is up. -/
def healthcheck (c : Client) (net : Network) (a : Server) : Except String Unit × Server :=
  match Http.requestUrl (c.baseUrl ++ healthPath) with
  | .error e => (.error ("build healthcheck request: " ++ e), a)
  | .ok u =>
    let (r, a) := exchange net a .get u none
    (statusCheck "healthcheck" r, a)

/-- The form fields of an upload. -/
def fields (c : Client) (path : String) (m : Metadata) : List Part :=
  [.field "secret" c.apiKey, .field "filename" (Path.base path), .field "runId" m.runId,
    .field "runName" m.runName, .field "frame" m.frame, .field "duration" (fixed m.duration 6),
    .field "tag" m.tag]

/-- Uploads the export file at `path`. -/
def upload (c : Client) (net : Network) (a : Server) (disk : Disk) (path : String)
    (m : Metadata) : Except String Unit × Server :=
  match disk.lookupPath path with
  | .error e => (.error ("failed to open file: " ++ (PathError.message ⟨"open", path, e⟩)), a)
  | .ok node =>
    match Http.requestUrl (c.baseUrl ++ uploadPath) with
    | .error e => (.error ("build upload request: " ++ e), a)
    | .ok u =>
      let (content, copyError) : ByteArray × Option String := match node with
        | .file data => (data, none)
        | .dir => (ByteArray.empty, some ("failed to copy file: read " ++ path ++ ": is a directory"))
      let form := c.fields path m ++ [.file "file" (Path.base path) (content.size > 0)]
      let (r, a) := exchange net a .post u (some form)
      match statusCheck "upload" r, copyError with
      | .ok (), some e => (.error e, a)
      | r, _ => (r, a)

end Client

end SailSim.Archive
