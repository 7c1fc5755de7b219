import SailSim.Geometry.Vec3
import SailSim.Geo.Geodetic
import SailSim.Json.Decode
import SailSim.Text.Number

/-!
# Tracks

A `Track` records the positions of a run twice: as east/north metres from home and as
longitude/latitude. Either one is drawn as a `LineString`, a polyline of at least two
points or the empty one; a track of fewer than two positions gives the empty line.

A line is measured by the geometry library the program links, which is a parameter here: a
`LineMeasure`. `LineMeasure.SumsSegments` says that a measure adds the Euclidean lengths of the
segments in order, and `LineMeasure.euclidean`, the measure the program runs with, does so,
computing each as `√(dx² + dy²)` with no guard against overflow. The sum of segments is written
over any `Scalar`, so the length of a list of points also reads in exact arithmetic. A line is
written as well-known text
(`LINESTRING(x y,x y)` or `LINESTRING EMPTY`) and as a GeoJSON geometry; both write every
coordinate positionally with the fewest digits that read back. A line of two or more points
that all lie at one place can be written but not read back (`oneDistinctPoint?`).

`LineString.parse` reads a line from a JSON array of coordinate arrays, keeping the first two
values of each.
-/

namespace SailSim.Geo

/-- A polyline: no points, or at least two. -/
structure LineString where
  points : Array (Float × Float)
  deriving Repr, Inhabited

namespace LineString

/-- The line through `ps`, empty when there are fewer than two. -/
def ofPoints (ps : Array (Float × Float)) : LineString :=
  if ps.size < 2 then ⟨#[]⟩ else ⟨ps⟩

section Length

variable {α : Type} [Scalar α]

/-- The length of one segment. -/
def segmentLength (a b : α × α) : α :=
  let dx := a.1 - b.1
  let dy := a.2 - b.2
  Scalar.sqrt (dx * dx + dy * dy)

/-- The sum of the segment lengths, in order. -/
def segmentsLength : List (α × α) → α → α
  | a :: b :: rest, acc => segmentsLength (b :: rest) (acc + segmentLength a b)
  | _, acc => acc

end Length

/-- Whether the line has no points. -/
def isEmpty (l : LineString) : Bool := l.points.isEmpty

/-- Why the geometry library refuses to read a line back, if it does: two or more points that
all lie at one place, named by the first of them. -/
def oneDistinctPoint? (l : LineString) : Option String :=
  match l.points.toList with
  | p :: rest@(_ :: _) =>
    if rest.all (· == p) then
      some ("non-empty LineString contains only one distinct XY value (at or near \x7b" ++
        FloatStyle.general.render p.1 ++ " " ++ FloatStyle.general.render p.2 ++ "\x7d)")
    else none
  | _ => none

/-- A coordinate written positionally with the fewest digits that read back. -/
def coordinate (x : Float) : String := FloatStyle.plain.render x

/-- The well-known text of the line. -/
def wkt (l : LineString) : String :=
  if l.isEmpty then "LINESTRING EMPTY"
  else "LINESTRING(" ++ ",".intercalate (l.points.toList.map fun (x, y) =>
    coordinate x ++ " " ++ coordinate y) ++ ")"

/-- The GeoJSON geometry of the line, as written before it is checked to be JSON. -/
def geoJsonText (l : LineString) : String :=
  "\x7b\"type\":\"LineString\",\"coordinates\":[" ++ ",".intercalate (l.points.toList.map
    fun (x, y) => "[" ++ coordinate x ++ "," ++ coordinate y ++ "]") ++ "]\x7d"

/-- The GeoJSON geometry of the line. A coordinate that is not finite does not make JSON,
and the error says where the text stops reading. -/
def geoJson (l : LineString) : Except String String :=
  let text := geoJsonText l
  match Json.parse text with
  | .ok _ => .ok text
  | .error e => .error ("json: error calling MarshalJSON for type geom.LineString: " ++ e.message)

/-- Why a text is not a line. -/
inductive ParseError where
  | unreadable (e : Json.DecodeError)
  | tooFewPoints (count : Nat)
  | shortCoordinate (index : Nat)

/-- The message of a line parsing error. -/
def ParseError.message : ParseError → String
  | .unreadable e => "failed to parse track JSON: " ++ e.message
  | .tooFewPoints n => s!"track must have at least 2 points, got {n}"
  | .shortCoordinate i => s!"coordinate {i} has insufficient values"

/-- The first two values of each coordinate, or the first coordinate with fewer. -/
def pairs : Nat → List (List Float) → Except ParseError (List (Float × Float))
  | _, [] => pure []
  | i, (x :: y :: _) :: cs => do pure ((x, y) :: (← pairs (i + 1) cs))
  | i, _ :: _ => throw (.shortCoordinate i)

/-- The line a JSON array of coordinate arrays describes, of at least two points. -/
def parse (text : String) : Except ParseError LineString := do
  let floats := Json.Decoder.list "[]float64" Json.Decoder.float 0
  let coords ← (Json.Decoder.run (Json.Decoder.list "[][]float64" floats []) "" [] text).mapError
    .unreadable
  if coords.length < 2 then throw (.tooFewPoints coords.length)
  let ps ← pairs 0 coords
  pure ⟨ps.toArray⟩

end LineString

/-- How lines are measured: the length the geometry library gives a line. -/
structure LineMeasure where
  /-- The length of a line. -/
  length : LineString → Float

namespace LineMeasure

/-- The measure adds the Euclidean lengths of a line's segments in order, so a line of fewer
than two points has length `0`. -/
def SumsSegments (m : LineMeasure) : Prop :=
  ∀ l : LineString, m.length l = LineString.segmentsLength l.points.toList 0

/-- The measure the program runs with: the sum of the segment lengths. -/
def euclidean : LineMeasure := ⟨fun l => LineString.segmentsLength l.points.toList 0⟩

theorem euclidean_sumsSegments : euclidean.SumsSegments := fun _ => rfl

end LineMeasure

/-- The positions of a run: east/north metres from home, and longitude/latitude. -/
structure Track where
  offsets : Array (Float × Float) := #[]
  lonLat : Array (Float × Float) := #[]
  deriving Repr, Inhabited

namespace Track

/-- The track with one more position, given as a north/east/down offset and a geodetic
position. -/
def add (t : Track) (ned : Vec3 Float) (g : Geodetic Float) : Track :=
  ⟨t.offsets.push (ned.y, ned.x), t.lonLat.push (g.lon, g.lat)⟩

/-- The number of positions. -/
def size (t : Track) : Nat := t.offsets.size

/-- The track in longitude/latitude. -/
def lineString (t : Track) : LineString := LineString.ofPoints t.lonLat

/-- The track in east/north metres from home. -/
def localLineString (t : Track) : LineString := LineString.ofPoints t.offsets

/-- The distance sailed over ground, in metres, as `lines` measures it. -/
def length (t : Track) (lines : LineMeasure) : Float := lines.length t.localLineString

end Track

end SailSim.Geo
