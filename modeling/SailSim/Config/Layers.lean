import SailSim.Config.Value
import SailSim.Json.Marshal
import SailSim.Text.Split

/-!
# Layered settings

Settings come from three layers, searched in order: values set explicitly, the configuration
file, and defaults. Each layer is a tree of objects whose member names are in lower case, and a
key names a path through it with dots (`boat.heel.policy`), in any case.

* A layer holds a key when the path leads to a value other than `null`; a `null` lets the
  search go on to the next layer.
* In the configuration file a member name may itself contain dots (`{"boat.mass": 3}`), and
  a list may be entered by a decimal index (`wave.0.speed`); the longest matching name is
  tried first.
* When a layer holds a value that is not an object on the way to a key (`{"boat": 5}` for
  `boat.mass`), the key is shadowed there: the search stops with no value, and every typed
  reading gives its zero value.

`Settings.allSettings` gathers every key of every layer into one tree, a key shadowed by a
value above it left out, each read as `Settings.get` reads it.
-/

namespace SailSim.Config

open Json

mutual

/-- Member names in lower case, all the way down, in lists too; of two names that become equal
the later one is kept. -/
def lowerKeys : Json → Json
  | .object ms => .object (lowerMembers ms)
  | .array xs => .array (lowerItems xs)
  | j => j

/-- Items with lower-case member names. -/
def lowerItems : List Json → List Json
  | [] => []
  | x :: xs => lowerKeys x :: lowerItems xs

/-- Members with lower-case names. -/
def lowerMembers : List (String × Json) → List (String × Json)
  | [] => []
  | (k, v) :: ms =>
    let rest := lowerMembers ms
    if rest.any (·.1 == k.toLower) then rest else (k.toLower, lowerKeys v) :: rest

end

/-- The member `k` of an object, the last one of that name. -/
def member? (ms : List (String × Json)) (k : String) : Option Json :=
  (ms.reverse.find? (·.1 == k)).map (·.2)

/-- The value at `path` in a tree whose objects are entered by exact name. -/
def searchTree : Json → List String → Option Json
  | j, [] => some j
  | .object ms, k :: rest =>
    match member? ms k with
    | some next => match rest with
      | [] => some next
      | _ => match next with
        | .object _ => searchTree next rest
        | _ => none
    | none => none
  | _, _ :: _ => none

/-- The value in a tree at `path`, where an object's member name may hold several parts of the
path joined by dots and a list is entered by index; longer names are tried first. -/
def searchIndexed : Nat → Json → List String → Option Json
  | _, j, [] => some j
  | 0, _, _ => none
  | fuel + 1, source, path =>
    let tryPrefix (i : Nat) : Option Json :=
      let key := ".".intercalate (path.take i)
      let next? : Option Json := match source with
        | .object ms => member? ms key
        | .array xs => match Text.readDecimal key with
          | some n => if n ≥ 0 && n < xs.length then xs[n.toNat]? else none
          | none => none
        | _ => none
      match next? with
      | none => none
      | some next =>
        if i == path.length then (match next with | .null => none | v => some v) else
        match next with
        | .object _ | .array _ => searchIndexed fuel next (path.drop i)
        | _ => none
    ((List.range path.length).reverse.map (· + 1)).findSome? tryPrefix

/-- Whether a value that is not an object lies on the way to `path` in `tree`. -/
def shadowed (tree : Json) (path : List String) : Bool :=
  let rec go : List String → List String → Bool
    | _, [] => false
    | seen, k :: rest =>
      let parent := seen ++ [k]
      if rest.isEmpty then false else
      match searchTree tree parent with
      | none | some .null => false
      | some (.object _) => go parent rest
      | some _ => true
  go [] path

/-- Layered settings. -/
structure Settings where
  /-- Values set explicitly. -/
  overrides : Json := .object []
  /-- The configuration file, names in lower case. -/
  file : Json := .object []
  defaults : Json := .object []

namespace Settings

/-- A value other than `null`. -/
def present : Option Json → Option Json
  | some .null => none
  | v => v

/-- The value of a key, searched through the layers. -/
def find (s : Settings) (key : String) : Option Json :=
  let path := Text.splitAt key.toLower '.'
  let nested := path.length > 1
  match present (searchTree s.overrides path) with
  | some v => some v
  | none =>
    if nested && shadowed s.overrides path then none else
    match searchIndexed (path.length + 1) s.file path with
    | some v => some v
    | none =>
      if nested && shadowed s.file path then none else
      match present (searchTree s.defaults path) with
      | some v => some v
      | none => none

/-- The value of a key, `null` when there is none. -/
def get (s : Settings) (key : String) : Json := (s.find key).getD .null

/-- A key as text. -/
def getString (s : Settings) (key : String) : String := asText (s.get key)

/-- A key as a float. -/
def getFloat (s : Settings) (key : String) : Float := asFloat (s.get key)

/-- A key as an integer. -/
def getInt (s : Settings) (key : String) : Int := asInt (s.get key)

/-- A key as a flag. -/
def getBool (s : Settings) (key : String) : Bool := asBool (s.get key)

/-- A key as a duration in nanoseconds. -/
def getDuration (s : Settings) (key : String) : Int := asDuration (s.get key)

/-- The tree with `v` at `path`, objects made on the way and values on the way replaced by
objects. -/
def insertAt : Json → List String → Json → Json
  | _, [], v => v
  | t, k :: rest, v =>
    let ms := match t with
      | .object ms => ms
      | _ => []
    let child := match member? ms k with
      | some c@(.object _) => c
      | _ => .object []
    let child := if rest.isEmpty then v else insertAt child rest v
    .object ((ms.filter (·.1 != k)) ++ [(k, child)])

/-- Sets a key explicitly. -/
def set (s : Settings) (key : String) (v : Json) : Settings :=
  { s with overrides := insertAt s.overrides (Text.splitAt key.toLower '.') v }

/-- Gives a key a default. -/
def setDefault (s : Settings) (key : String) (v : Json) : Settings :=
  { s with defaults := insertAt s.defaults (Text.splitAt key.toLower '.') v }

mutual

/-- The dotted keys of a tree's values, in lower case, skipping those below a key already in
`seen`. -/
def keysOf (seen : List String) (pre : String) : Json → List String
  | .object ms => keysOfMembers seen pre ms
  | _ => []

/-- The keys of members. -/
def keysOfMembers (seen : List String) (pre : String) : List (String × Json) → List String
  | [] => []
  | (k, v) :: ms =>
    let full := if pre.isEmpty then k else pre ++ "." ++ k
    let here := match v with
      | .object _ => if seen.contains full.toLower then [] else keysOf seen full v
      | _ => [full.toLower]
    here ++ keysOfMembers (seen ++ here) pre ms

end

/-- Every key of every layer, a key below a value of a higher layer left out. -/
def allKeys (s : Settings) : List String :=
  let k1 := keysOf [] "" s.overrides
  let k2 := k1 ++ keysOf k1 "" s.file
  let k3 := k2 ++ keysOf k2 "" s.defaults
  (k3.foldl (fun acc k => if acc.contains k then acc else acc ++ [k]) []).mergeSort
    fun a b => decide (a ≤ b)

/-- Every setting in one tree. -/
def allSettings (s : Settings) : Json :=
  s.allKeys.foldl (fun t k => match s.find k with
    | some v => insertAt t (Text.splitAt k '.') v
    | none => t) (.object [])

/-- Reads a configuration file's text into the file layer. -/
def readFile (s : Settings) (text : String) : Except String Settings := do
  let j ← (Json.parse text).mapError (·.message)
  match j with
  | .null => pure { s with file := .object [] }
  | .object _ =>
    let j ← generic j
    pure { s with file := lowerKeys j }
  | other => throw ("json: cannot unmarshal " ++ other.kindName ++
      " into Go value of type map[string]interface \x7b\x7d")

end Settings

end SailSim.Config
