import SailSim.Chart.Figure

/-!
# Raster pages

A page of shapes drawn into a gray canvas, one byte a pixel from black (0) to white (255), at
96 pixels to the inch: a page of `side` points is `|side| · 96 / 72` pixels square, rounded. Lines and
circles are drawn one pixel wide by stepping along them a pixel at a time; text is not drawn.
-/

namespace SailSim.Chart

/-- Pixels to a point. -/
def pixelsPerPoint : Float := 96 / 72

/-- A gray canvas, rows from the top. -/
structure Canvas where
  width : Nat
  height : Nat
  pixels : ByteArray

namespace Canvas

/-- A white canvas. -/
def blank (width height : Nat) : Canvas :=
  ⟨width, height, ByteArray.mk (Array.replicate (width * height) 255)⟩

/-- The canvas with the pixel at `(x, y)` set to `v`, when it lies on the canvas. -/
def plot (c : Canvas) (x y : Int) (v : UInt8) : Canvas :=
  if 0 ≤ x && x < c.width && 0 ≤ y && y < c.height then
    { c with pixels := c.pixels.set! (y.toNat * c.width + x.toNat) v }
  else c

/-- The pixel of a page point. -/
def pixelOf (c : Canvas) (p : Point) : Float × Float :=
  (p.1 * pixelsPerPoint, c.height.toFloat - p.2 * pixelsPerPoint)

/-- The canvas with a segment between two page points drawn in gray `v`. -/
def segment (c : Canvas) (a b : Point) (v : UInt8) : Canvas :=
  let (x0, y0) := c.pixelOf a
  let (x1, y1) := c.pixelOf b
  let span := max (Float.abs (x1 - x0)) (Float.abs (y1 - y0))
  let n := if span.isNaN || span.isInf then 0 else (Float.ceil span).toUInt64.toNat + 1
  (List.range (n + 1)).foldl (fun c i =>
    let t := if n == 0 then 0 else i.toFloat / n.toFloat
    c.plot (Float.round (x0 + (x1 - x0) * t)).toInt64.toInt
      (Float.round (y0 + (y1 - y0) * t)).toInt64.toInt v) c

/-- The canvas with a polyline drawn in gray `v`. -/
def polyline (c : Canvas) (ps : List Point) (v : UInt8) : Canvas :=
  (ps.zip ps.tail).foldl (fun c (a, b) => c.segment a b v) c

/-- The canvas with a shape drawn. -/
def draw (c : Canvas) : Shape → Canvas
  | .path ps _ gray _ => c.polyline ps.toList (Float.round (gray * 255)).toUInt8
  | .circle (x, y) r _ =>
    let n := 32
    let ps := (List.range (n + 1)).map fun i =>
      let a := 2 * 3.141592653589793 * i.toFloat / n.toFloat
      (x + r * Float.cos a, y + r * Float.sin a)
    c.polyline ps 0
  | .label .. => c

end Canvas

/-- The shapes drawn on a canvas for a page `side` points square. -/
def raster (side : Float) (shapes : List Shape) : Canvas :=
  let n := (Float.round (Float.abs side * pixelsPerPoint)).toUInt64.toNat
  shapes.foldl Canvas.draw (Canvas.blank n n)

end SailSim.Chart
