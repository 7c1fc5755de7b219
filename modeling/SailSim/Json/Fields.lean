import SailSim.Json.Decode

/-!
# Reading an object member by member

`Fields` is an object opened for reading one member at a time, the way a record is decoded: a
member name matches ignoring ASCII case, and of several matching members the last one counts.
Each read decodes one member with a `Decoder` and reports its first type error at once, placed
by the path of member names from the outermost object.
-/

namespace SailSim.Json

/-- An object's members with the path of names that leads to it. -/
structure Fields where
  members : List (String × Json)
  /-- Member names and indices from the outermost object, last first. -/
  path : List String := []

namespace Fields

/-- The value of the last member named `k`, ignoring ASCII case. -/
def get? (s : Fields) (k : String) : Option Json :=
  (s.members.reverse.find? fun m => m.1.toLower == k.toLower).map (·.2)

/-- Whether a member named `k` is present. -/
def has (s : Fields) (k : String) : Bool := (s.get? k).isSome

/-- Whether member `k` is missing or `null`. -/
def absent (s : Fields) (k : String) : Bool :=
  match s.get? k with
  | none | some .null => true
  | some _ => false

/-- The place of member `k`. -/
def place (s : Fields) (k : String) : Place := ⟨"", k :: s.path, true⟩

/-- A decoded value, or its first type error. -/
def finish {α : Type} (r : Except DecodeError (α × Option DecodeError)) : Except DecodeError α :=
  match r with
  | .ok (a, none) => .ok a
  | .ok (_, some e) => .error e
  | .error e => .error e

/-- Member `k` decoded by `d` over `z`; a missing member gives `z`. -/
def read {α : Type} (s : Fields) (d : Decoder α) (z : α) (k : String) : Except DecodeError α :=
  match s.get? k with
  | none => .ok z
  | some j => finish (d z (s.place k) j)

/-- Member `k` decoded by `d`, or nothing when it is missing or `null`. -/
def read? {α : Type} [Inhabited α] (s : Fields) (d : Decoder α) (k : String) :
    Except DecodeError (Option α) :=
  match s.get? k with
  | none | some .null => .ok none
  | some j => some <$> finish (d default (s.place k) j)

/-- The object in member `k`, read as a record of type `typeName`; missing or `null` gives an
empty one. -/
def sub (s : Fields) (k typeName : String) : Except DecodeError Fields :=
  match s.get? k with
  | none | some .null => .ok ⟨[], k :: s.path⟩
  | some (.object ms) => .ok ⟨ms, k :: s.path⟩
  | some j => .error (.type j.kindName (s.place k) typeName)

/-- The objects in the list in member `k`, each a record of type `typeName`. -/
def items (s : Fields) (k typeName : String) : Except DecodeError (List Fields) :=
  match s.get? k with
  | none | some .null => .ok []
  | some (.array xs) =>
    xs.zipIdx.mapM fun (x, i) =>
      let path := toString i :: k :: s.path
      match x with
      | .object ms => .ok ⟨ms, path⟩
      | .null => .ok ⟨[], path⟩
      | j => .error (.type j.kindName ⟨"", path, false⟩ typeName)
  | some j => .error (.type j.kindName (s.place k) ("[]" ++ typeName))

end Fields

end SailSim.Json
