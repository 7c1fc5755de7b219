import SailSim.Cli.Recorded
import SailSim.Chart.Vector
import SailSim.Chart.Encode

/-!
# Track plots

`plot` draws a recorded run's track in east/north metres from home, north up: the sailed line
1.5 points wide, a circle at the start, and, when a planned route is given, the route dashed
with a legend naming both. The page is `-size` inches square and the output file's extension
picks the format: `eps`, `jpg` or `jpeg`, `pdf`, `png`, `svg`, `tex`, `tif` or `tiff`.

The checks come in order: the source flag, the route, the run, a track of at least two
points whose coordinates are all finite, and then the output file, which is created before its
format is looked at, so a file with an unknown extension is left empty.
-/

namespace SailSim.Cli

open Chart

/-- The flags of `plot`. -/
def plotFlags : FlagSet := ⟨"plot", [
  ⟨"db", .text "", "SQLite dump or JSON export to read"⟩,
  ⟨"run", .text "", "run uuid"⟩,
  ⟨"out", .text "track.png", "output image; the extension selects the format"⟩,
  ⟨"size", .float 6, "image size in inches"⟩,
  ⟨"route", .text "", "planned route to overlay, \"[[east,north],...]\" in metres from home"⟩]⟩

/-- Why a line cannot be drawn: the first point with a coordinate that is not a number or not
finite. -/
def checkPoints (ps : List Point) : Except String Unit :=
  ps.forM fun (x, y) => [x, y].forM fun v =>
    if v.isNaN then .error "plotter: NaN data point"
    else if v.isInf then .error "plotter: infinite data point"
    else .ok ()

/-- The extension of a path's last element, lower case and without its dot. -/
def extension (path : String) : String :=
  let base := (path.splitOn "/").getLastD ""
  match base.splitOn "." with
  | [_] => ""
  | parts => (parts.getLastD "").toLower

/-- The file of a figure drawn on a page `side` points square, in the format an extension
names. -/
def render (fig : Figure) (side : Float) (ext : String) : Except String ByteArray :=
  let shapes := fig.shapes side
  match ext with
  | "eps" => .ok (eps side shapes).toUTF8
  | "jpg" | "jpeg" => .ok (jpeg (raster side shapes))
  | "pdf" => .ok (pdf side shapes)
  | "png" => png (raster side shapes)
  | "svg" => .ok (svg side shapes).toUTF8
  | "tex" => .ok (tex side shapes).toUTF8
  | "tif" | "tiff" => .ok (tiff (raster side shapes))
  | e => .error ("unsupported format: " ++ Text.quote e)

/-- The figure of a run's track over a planned route. -/
def trackFigure (rr : RecordedRun) (planned : List Point) : Figure :=
  let sailed : Series := { points := rr.offsets, width := 1.5 }
  let start := (rr.offsets.toList.take 1).map fun p => (p, (4 : Float))
  if planned.isEmpty then
    { title := rr.name, xLabel := "east (m)", yLabel := "north (m)", series := [sailed], marks := start }
  else
    let plan : Series := { points := planned.toArray, dashes := [4, 4], label := some "planned" }
    { title := rr.name, xLabel := "east (m)", yLabel := "north (m)"
      series := [plan, { sailed with label := some "sailed" }], marks := start }

/-- Draws a run's track to `path` on a page `inches` square: the disk afterwards, with the
output file created even when drawing it failed, and the error, if any. -/
def savePlot (rr : RecordedRun) (planned : List Point) (path : String) (inches : Float)
    (disk : Disk) : Except String Unit × Disk :=
  let checks : Except String Unit := do
    let n := rr.offsets.size
    if n < 2 then throw s!"run {rr.uuid} has {n} positions, need at least 2"
    (checkPoints rr.offsets.toList).mapError ("track line: " ++ ·)
    if !planned.isEmpty then (checkPoints planned).mapError ("route line: " ++ ·)
    (checkPoints (rr.offsets.toList.take 1)).mapError ("start marker: " ++ ·)
  match checks with
  | .error e => (.error e, disk)
  | .ok () =>
  match disk.writeFile path ByteArray.empty with
  | .error e => (.error ("save plot: " ++ e.message), disk)
  | .ok disk =>
  match render (trackFigure rr planned) (inches * 72) (extension path) with
  | .error e => (.error ("save plot: " ++ e), disk)
  | .ok data => match disk.writeFile path data with
    | .error e => (.error ("save plot: " ++ e.message), disk)
    | .ok disk => (.ok (), disk)

/-- The `plot` command. -/
def plotCommand (args : List String) (m : Machine) : Exit :=
  match plotFlags.parse args with
  | (.error .help, err) => { m.failWith "" err with stderr := err }
  | (.error (.failed msg), err) => m.failWith msg err
  | (.ok f, _) =>
  let src := f.text "db"
  let route := f.text "route"
  let out := f.text "out"
  if src.isEmpty then m.failWith "-db is required" else
  let planned : Except String (List Point) :=
    if route.isEmpty then .ok [] else
    match Geo.LineString.parse route with
    | .ok l => .ok l.points.toList
    | .error e => .error ("-route: " ++ e.message)
  match planned with
  | .error e => m.failWith e
  | .ok planned =>
  match loadRecordedRun m.disk src (f.text "run") with
  | (.error e, disk) => { m with disk }.failWith e
  | (.ok rr, disk) =>
  match savePlot rr planned out (f.float "size") disk with
  | (.error e, disk) => { m with disk }.failWith e
  | (.ok (), disk) => { m with disk }.succeed (out ++ "\n")

end SailSim.Cli
