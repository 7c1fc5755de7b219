import SailSim.Text.Number

/-!
# Figures

A figure is a square chart of lines in the plane: a title, labelled axes, a light grid at round
tick values, its lines (solid or dashed), circles marking points, and, when some line is
labelled, a legend naming the labelled lines.

`Figure.shapes` lays a figure out on a square page of a given side in points, as shapes with
their coordinates in points from the bottom-left corner; every output format draws those
shapes. The data range is the smallest box holding every point, widened by one on a side of
zero width, and the axes take round ticks, about five of them, one, two or five times a power
of ten apart.
-/

namespace SailSim.Chart

/-- A point of the plane. -/
abbrev Point := Float × Float

/-- A line of a figure. -/
structure Series where
  points : Array Point
  /-- Line width in points. -/
  width : Float := 1
  /-- Alternating dash and gap lengths in points, empty for a solid line. -/
  dashes : List Float := []
  /-- The legend's name for the line, none to leave it out. -/
  label : Option String := none
  deriving Inhabited

/-- A figure. -/
structure Figure where
  title : String := ""
  xLabel : String := ""
  yLabel : String := ""
  series : List Series := []
  /-- Points marked by circles of the given radius in points. -/
  marks : List (Point × Float) := []
  deriving Inhabited

/-- What a page shows, in points from its bottom-left corner. -/
inductive Shape where
  /-- A polyline of a width and a gray level (0 black, 1 white) with a dash pattern. -/
  | path (points : Array Point) (width : Float) (gray : Float) (dashes : List Float)
  | circle (center : Point) (radius : Float) (width : Float)
  /-- Text whose baseline starts at `origin`. -/
  | label (origin : Point) (size : Float) (text : String)
  deriving Inhabited

/-- The smallest and largest of some values, none without any. -/
def range (xs : List Float) : Option (Float × Float) :=
  xs.foldl (fun acc x => match acc with
    | none => some (x, x)
    | some (lo, hi) => some (if x < lo then x else lo, if x > hi then x else hi)) none

/-- A range widened by one on each side when it has no width. -/
def widen (r : Float × Float) : Float × Float := if r.1 < r.2 then r else (r.1 - 1, r.2 + 1)

/-- A round step for about five ticks over a span. -/
def tickStep (span : Float) : Float :=
  let raw := span / 5
  let mag := Float.pow 10 (Float.floor (Float.log10 raw))
  let norm := raw / mag
  (if norm < 1.5 then 1 else if norm < 3 then 2 else if norm < 7 then 5 else 10) * mag

/-- The multiples of the tick step within a range, at most twenty of them. -/
def ticks (lo hi : Float) : List Float :=
  let step := tickStep (hi - lo)
  if step.isNaN || step.isInf || step ≤ 0 then [] else
  let first := Float.ceil (lo / step)
  (List.range 21).filterMap fun i =>
    let t := (first + i.toFloat) * step
    if t ≤ hi then some t else none

/-- The figure's data range on each axis. -/
def Figure.bounds (f : Figure) : (Float × Float) × (Float × Float) :=
  let pts := f.series.flatMap (·.points.toList) ++ f.marks.map (·.1)
  (widen ((range (pts.map (·.1))).getD (0, 1)), widen ((range (pts.map (·.2))).getD (0, 1)))

/-- A coordinate of a page as vector formats write it. -/
def coord (x : Float) : String := fixed x 2

/-- The shapes of a figure on a page `side` points square. -/
def Figure.shapes (f : Figure) (side : Float) : List Shape :=
  let (left, bottom, right, top) := (48.0, 40.0, side - 12, side - 30)
  let ((x0, x1), (y0, y1)) := f.bounds
  let px (x : Float) : Float := left + (x - x0) / (x1 - x0) * (right - left)
  let py (y : Float) : Float := bottom + (y - y0) / (y1 - y0) * (top - bottom)
  let xTicks := ticks x0 x1
  let yTicks := ticks y0 y1
  let grid := xTicks.map (fun t => Shape.path #[(px t, bottom), (px t, top)] 0.5 0.85 []) ++
    yTicks.map (fun t => Shape.path #[(left, py t), (right, py t)] 0.5 0.85 [])
  let frame := [Shape.path #[(left, top), (left, bottom), (right, bottom)] 1 0 []]
  let tickLabels := xTicks.map (fun t => Shape.label (px t - 8, bottom - 14) 8 (FloatStyle.general.render t)) ++
    yTicks.map (fun t => Shape.label (2, py t - 3) 8 (FloatStyle.general.render t))
  let labels := [Shape.label ((left + right) / 2 - 20, 6) 10 f.xLabel,
    Shape.label (2, top + 8) 10 f.yLabel, Shape.label ((left + right) / 2 - 30, side - 16) 12 f.title]
  let lines := f.series.map fun s => Shape.path (s.points.map fun (x, y) => (px x, py y)) s.width 0 s.dashes
  let marks := f.marks.map fun ((x, y), r) => Shape.circle (px x, py y) r 1
  let legend := (f.series.filterMap fun s => s.label.map (s, ·)).zipIdx.flatMap fun ((s, name), i) =>
    let y := top - 12 - 14 * i.toFloat
    [Shape.path #[(right - 90, y + 3), (right - 60, y + 3)] s.width 0 s.dashes,
      Shape.label (right - 55, y) 10 name]
  grid ++ frame ++ tickLabels ++ labels ++ lines ++ marks ++ legend

end SailSim.Chart
