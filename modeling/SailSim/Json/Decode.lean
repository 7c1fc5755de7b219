import SailSim.Json.Read
import SailSim.Text.ReadFloat

/-!
# Decoding JSON into records

A `Decoder α` reads a JSON value into a value of `α`, starting from the value already there:
a missing member keeps its field, `null` keeps a scalar or record and clears a list, map or
option. The rules are those of the program's configuration and schedule files:

* object members are matched to fields by exact name, else by name ignoring ASCII case;
  unknown members are ignored, and a repeated member is decoded again;
* a value of the wrong kind, or a number that does not fit the field's type, is a *type
  error*: the field keeps its value, decoding goes on, and the first type error is reported
  at the end;
* an error of a field's own reader, such as an unreadable time, stops decoding at once.

A type error names the value's kind (and a number's text, when the number is what does not
fit), the place of the value and the field's type:
`json: cannot unmarshal string into Go struct field BoatConfig.mass of type float64`. The
place is `Go value` at the top level; below it, the root type's name and the path of member
names and indices, after `Go struct field` when the value is a record's field.
-/

namespace SailSim.Json

/-- Where a value sits in the decoded text. -/
structure Place where
  /-- The name of the root type, empty when it has none. -/
  root : String
  /-- Member names and indices from the root, last first. -/
  path : List String
  /-- Whether the value is a record's field. -/
  inField : Bool
  deriving Repr, BEq

/-- Why a value cannot be decoded. -/
inductive DecodeError where
  | malformed (e : SyntaxError)
  /-- A value of the wrong kind: its description, place and the field's type. -/
  | type (what : String) (place : Place) (typeName : String)
  /-- An error of a field's own reader. -/
  | other (message : String)
  deriving Repr, BEq

/-- The place part of a type error. -/
def Place.describe (p : Place) : String :=
  if p.path.isEmpty then "Go value"
  else (if p.inField then "Go struct field " else "") ++ p.root ++ "." ++
    ".".intercalate p.path.reverse

/-- The message of a decoding error. -/
def DecodeError.message : DecodeError → String
  | .malformed e => e.message
  | .type what place t =>
    "json: cannot unmarshal " ++ what ++ " into " ++ place.describe ++ " of type " ++ t
  | .other m => m

/-- Reads a value into a value of `α`, given the value already there. The second component
of a result is the first type error met, if any; an `error` stops decoding. -/
abbrev Decoder (α : Type) := α → Place → Json → Except DecodeError (α × Option DecodeError)

/-- The first of two optional type errors. -/
def firstError (a b : Option DecodeError) : Option DecodeError := a.orElse fun _ => b

namespace Decoder

/-- A type error for `j` at `place`: the field keeps `current`. -/
def mismatch {α : Type} (current : α) (place : Place) (typeName : String) (j : Json) :
    Except DecodeError (α × Option DecodeError) :=
  .ok (current, some (.type j.kindName place typeName))

/-- A number that does not fit the field's type. -/
def badNumber {α : Type} (current : α) (place : Place) (typeName : String) (lit : String) :
    Except DecodeError (α × Option DecodeError) :=
  .ok (current, some (.type ("number " ++ lit) place typeName))

/-- A binary64 float. -/
def float : Decoder Float := fun cur place j =>
  match j with
  | .null => .ok (cur, none)
  | .number lit =>
    match Text.readFloat lit with
    | .ok f => .ok (f, none)
    | .error _ => badNumber cur place "float64" lit
  | _ => mismatch cur place "float64" j

/-- An integer literal's value: digits, after a minus sign when `signed`. -/
def intLiteral? (signed : Bool) (lit : String) : Option Int :=
  match lit.toList with
  | '-' :: ds =>
    if signed && !ds.isEmpty && ds.all Char.isDigit then some (-(String.ofList ds).toNat!)
    else none
  | ds => if !ds.isEmpty && ds.all Char.isDigit then some (String.ofList ds).toNat! else none

/-- An integer in `[lo, hi]`, named `typeName` in errors; a minus sign is refused when `lo`
is not negative. -/
def intIn (typeName : String) (lo hi : Int) : Decoder Int := fun cur place j =>
  match j with
  | .null => .ok (cur, none)
  | .number lit =>
    match intLiteral? (lo < 0) lit with
    | some n => if lo ≤ n && n ≤ hi then .ok (n, none) else badNumber cur place typeName lit
    | none => badNumber cur place typeName lit
  | _ => mismatch cur place typeName j

/-- A 64-bit signed integer. -/
def int64 : Decoder Int := intIn "int64" (-(Int.pow 2 63)) (Int.pow 2 63 - 1)

/-- A machine integer. -/
def int : Decoder Int := intIn "int" (-(Int.pow 2 63)) (Int.pow 2 63 - 1)

/-- A 16-bit unsigned integer. -/
def uint16 : Decoder UInt16 := fun cur place j =>
  match intIn "uint16" 0 65535 cur.toNat place j with
  | .ok (n, e) => .ok (UInt16.ofNat n.toNat, e)
  | .error e => .error e

/-- A 64-bit unsigned integer. -/
def uint64 : Decoder Nat := fun cur place j =>
  match intIn "uint64" 0 (Int.pow 2 64 - 1) cur place j with
  | .ok (n, e) => .ok (n.toNat, e)
  | .error e => .error e

/-- A string. -/
def string : Decoder String := fun cur place j =>
  match j with
  | .null => .ok (cur, none)
  | .string s => .ok (s, none)
  | _ => mismatch cur place "string" j

/-- A boolean. -/
def bool : Decoder Bool := fun cur place j =>
  match j with
  | .null => .ok (cur, none)
  | .bool b => .ok (b, none)
  | _ => mismatch cur place "bool" j

/-- An optional boolean, cleared by `null`. -/
def optBool : Decoder (Option Bool) := fun cur place j =>
  match j with
  | .null => .ok (none, none)
  | .bool b => .ok (some b, none)
  | _ => mismatch cur place "bool" j

/-- Any value, kept as it is. -/
def any : Decoder Json := fun _ _ j => .ok (j, none)

/-- The place of an element of a list or map. -/
def elementPlace (place : Place) (name : String) : Place :=
  { place with path := name :: place.path, inField := false }

/-- The place of a record's field. -/
def fieldPlace (place : Place) (name : String) : Place :=
  { place with path := name :: place.path, inField := true }

/-- Decodes items in order, each from the element default `zero`. -/
def items {α : Type} (d : Decoder α) (zero : α) (place : Place) :
    Nat → List Json → Except DecodeError (List α × Option DecodeError)
  | _, [] => .ok ([], none)
  | i, x :: xs => do
    let (a, e1) ← d zero (elementPlace place (toString i)) x
    let (as, e2) ← items d zero place (i + 1) xs
    pure (a :: as, firstError e1 e2)

/-- A list, each element decoded from `zero`; `null` gives the empty list. -/
def list {α : Type} (typeName : String) (d : Decoder α) (zero : α) : Decoder (List α) :=
  fun cur place j =>
    match j with
    | .null => .ok ([], none)
    | .array xs => items d zero place 0 xs
    | _ => mismatch cur place typeName j

/-- Decodes map entries in order into `acc`, a later key replacing an earlier one. -/
def entries {α : Type} (d : Decoder α) (zero : α) (place : Place) :
    List (String × α) → List (String × Json) →
    Except DecodeError (List (String × α) × Option DecodeError)
  | acc, [] => .ok (acc, none)
  | acc, (k, x) :: xs => do
    let start := ((acc.find? (·.1 == k)).map (·.2)).getD zero
    let (a, e1) ← d start (elementPlace place k) x
    let acc := if acc.any (·.1 == k) then acc.map fun p => if p.1 == k then (k, a) else p
      else acc ++ [(k, a)]
    let (acc, e2) ← entries d zero place acc xs
    pure (acc, firstError e1 e2)

/-- A map from strings, in first-insertion order; `null` clears it. -/
def map {α : Type} (typeName : String) (d : Decoder α) (zero : α) :
    Decoder (List (String × α)) := fun cur place j =>
  match j with
  | .null => .ok ([], none)
  | .object ms => entries d zero place cur ms
  | _ => mismatch cur place typeName j

/-- One field of a record `σ`: its name and how a member updates the record. -/
structure Field (σ : Type) where
  name : String
  update : σ → Place → Json → Except DecodeError (σ × Option DecodeError)

/-- The field `name` read by `d` through `get` and `set`. -/
def field {σ α : Type} (name : String) (get : σ → α) (set : σ → α → σ) (d : Decoder α) :
    Field σ where
  name := name
  update s place j := do
    let (a, e) ← d (get s) (fieldPlace place name) j
    pure (set s a, e)

/-- The field a member key selects: exact name first, else equal ignoring ASCII case. -/
def selectField {σ : Type} (fields : List (Field σ)) (key : String) : Option (Field σ) :=
  match fields.find? (·.name == key) with
  | some f => some f
  | none => fields.find? fun f => f.name.toLower == key.toLower

/-- Applies members in order. -/
def members {σ : Type} (fields : List (Field σ)) (place : Place) :
    σ → List (String × Json) → Except DecodeError (σ × Option DecodeError)
  | s, [] => .ok (s, none)
  | s, (k, x) :: xs => do
    let (s, e1) ← match selectField fields k with
      | some f => f.update s place x
      | none => pure (s, none)
    let (s, e2) ← members fields place s xs
    pure (s, firstError e1 e2)

/-- A record of type `typeName` with the given fields. -/
def record {σ : Type} (typeName : String) (fields : List (Field σ)) : Decoder σ :=
  fun cur place j =>
    match j with
    | .null => .ok (cur, none)
    | .object ms => members fields place cur ms
    | _ => mismatch cur place typeName j

/-- Decodes a whole text into `start`, the root type named `root`. -/
def run {α : Type} (d : Decoder α) (root : String) (start : α) (text : String) :
    Except DecodeError α := do
  let j ← (parse text).mapError .malformed
  let (a, e) ← d start ⟨root, [], false⟩ j
  match e with
  | some err => .error err
  | none => pure a

/-- Decodes a parsed value into `start`, the root type named `root`. -/
def runValue {α : Type} (d : Decoder α) (root : String) (start : α) (j : Json) :
    Except DecodeError α := do
  let (a, e) ← d start ⟨root, [], false⟩ j
  match e with
  | some err => .error err
  | none => pure a

end Decoder

end SailSim.Json
