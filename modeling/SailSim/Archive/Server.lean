import SailSim.Json.Value
import SailSim.Net.Http

/-!
# The run archive

The run archive keeps finished runs. It answers `GET /healthcheck` and `POST /api/v1/runs/add`,
the upload of a run's export as a multipart form, with the statuses it is set to give, and
every other request with `404`. It keeps every request it answered, in order: the method, the
path, the status and, for a form, its media type and its parts, each a field with its value or
a file with its name and whether it held anything.
-/

namespace SailSim.Archive

open Net

/-- The path of the health check. -/
def healthPath : String := "/healthcheck"

/-- The path runs are uploaded to. -/
def uploadPath : String := "/api/v1/runs/add"

/-- A part of a multipart form. -/
inductive Part where
  | field (name value : String)
  | file (name fileName : String) (nonEmpty : Bool)
  deriving Repr, BEq, Inhabited

/-- A request the archive answered. -/
structure Exchange where
  method : Method
  path : String
  status : Nat
  /-- The parts of a form, none for a request without one. -/
  form : Option (List Part) := none
  deriving Repr, Inhabited

/-- The archive. -/
structure Server where
  healthStatus : Nat := 200
  uploadStatus : Nat := 200
  exchanges : Array Exchange := #[]
  deriving Inhabited

namespace Server

/-- The status the archive gives a request. -/
def statusFor (a : Server) (method : Method) (path : String) : Nat :=
  if method == .get && path == healthPath then a.healthStatus
  else if method == .post && path == uploadPath then a.uploadStatus
  else 404

/-- Answers a request, keeping it. -/
def answer (a : Server) (method : Method) (path : String) (form : Option (List Part)) :
    Nat × Server :=
  let status := a.statusFor method path
  (status, { a with exchanges := a.exchanges.push { method, path, status, form } })

end Server

/-- A part as the archive writes it down. -/
def Part.toJson : Part → Json
  | .field name value => .object [("name", .string name), ("value", .string value)]
  | .file name fileName nonEmpty =>
    .object [("name", .string name), ("file", .string fileName), ("nonEmpty", .bool nonEmpty)]

/-- A request as the archive writes it down. -/
def Exchange.toJson (x : Exchange) : Json :=
  .object ([("method", .string x.method.name), ("path", .string x.path),
    ("status", Json.nat x.status)] ++
    match x.form with
    | some parts => [("contentType", .string "multipart/form-data"),
        ("parts", .array (parts.map Part.toJson))]
    | none => [])

end SailSim.Archive
