import SailSim.Chart.Figure
import SailSim.Net.Query

/-!
# Vector pages

A page of shapes written in four vector formats, each a complete document:

* SVG: an XML document with a white background, paths, circles and text, the y axis pointing
  down as SVG has it;
* PDF: one page with its catalog, page tree, a content stream of path operators and a
  Helvetica font, followed by the cross-reference table of the objects' byte offsets;
* EPS: encapsulated PostScript with its bounding box;
* TeX: a standalone LaTeX document drawing with PGF.

Circles are drawn as four Bézier arcs where the format has no circle. Text that the format
would read as markup is escaped.
-/

namespace SailSim.Chart

/-- The Bézier handle length of a quarter circle of radius one. -/
def arcHandle : Float := 0.5522847498

/-- The four Bézier arcs of a circle: the start, then three points an arc. -/
def circleArcs (c : Point) (r : Float) : Point × List (Point × Point × Point) :=
  let (x, y) := c
  let k := arcHandle * r
  ((x + r, y), [((x + r, y + k), (x + k, y + r), (x, y + r)),
    ((x - k, y + r), (x - r, y + k), (x - r, y)),
    ((x - r, y - k), (x - k, y - r), (x, y - r)),
    ((x + k, y - r), (x + r, y - k), (x + r, y))])

/-- Text escaped for XML. -/
def xmlEscape (s : String) : String :=
  String.join (s.toList.map fun c => match c with
    | '<' => "&lt;" | '>' => "&gt;" | '&' => "&amp;" | '"' => "&quot;" | c => c.toString)

/-- A gray level as an SVG color. -/
def svgGray (g : Float) : String :=
  let v := (Float.round (g * 255)).toUInt8.toNat
  let h := String.ofList [Net.Query.hexDigit (v / 16), Net.Query.hexDigit (v % 16)]
  "#" ++ h ++ h ++ h

/-- The shapes as an SVG document on a page `side` points square. -/
def svg (side : Float) (shapes : List Shape) : String :=
  let s := coord side
  let flip (p : Point) : String := coord p.1 ++ "," ++ coord (side - p.2)
  let shape : Shape → String
    | .path ps width gray dashes =>
      let d := " ".intercalate (ps.toList.zipIdx.map fun (p, i) => (if i == 0 then "M" else "L") ++ flip p)
      "<path d=\"" ++ d ++ "\" fill=\"none\" stroke=\"" ++ svgGray gray ++ "\" stroke-width=\"" ++
        coord width ++ "\"" ++
        (if dashes.isEmpty then "" else " stroke-dasharray=\"" ++ ",".intercalate (dashes.map coord) ++ "\"") ++
        "/>\n"
    | .circle (x, y) r width =>
      "<circle cx=\"" ++ coord x ++ "\" cy=\"" ++ coord (side - y) ++ "\" r=\"" ++ coord r ++
        "\" fill=\"none\" stroke=\"#000000\" stroke-width=\"" ++ coord width ++ "\"/>\n"
    | .label (x, y) size text =>
      "<text x=\"" ++ coord x ++ "\" y=\"" ++ coord (side - y) ++ "\" font-family=\"Helvetica\" font-size=\"" ++
        coord size ++ "\">" ++ xmlEscape text ++ "</text>\n"
  "<?xml version=\"1.0\"?>\n<svg width=\"" ++ s ++ "pt\" height=\"" ++ s ++ "pt\" viewBox=\"0 0 " ++
    s ++ " " ++ s ++ "\" xmlns=\"http://www.w3.org/2000/svg\" version=\"1.1\">\n" ++
    "<rect width=\"100%\" height=\"100%\" fill=\"#FFFFFF\"/>\n" ++
    String.join (shapes.map shape) ++ "</svg>\n"

/-- Text as a PDF or PostScript string: parentheses and backslashes escaped, characters
beyond ASCII written `?`. -/
def psString (s : String) : String :=
  "(" ++ String.join (s.toList.map fun c =>
    if c == '(' || c == ')' || c == '\\' then "\\" ++ c.toString
    else if c.toNat < 32 || c.toNat > 126 then "?" else c.toString) ++ ")"

/-- The drawing operators of a shape, shared by PDF and PostScript in spirit: `move`, `line`,
`curve`, `stroke`, a dash setter and a text writer name the format's own operators. -/
structure Operators where
  move : String
  line : String
  curve : String
  stroke : String
  width : String
  gray : String
  dash : List Float → String
  text : Point → Float → String → String

/-- The operators of a shape. -/
def Operators.draw (o : Operators) : Shape → String
  | .path ps width gray dashes =>
    coord width ++ " " ++ o.width ++ " " ++ coord gray ++ " " ++ o.gray ++ " " ++ o.dash dashes ++ "\n" ++
      String.join (ps.toList.zipIdx.map fun ((x, y), i) =>
        coord x ++ " " ++ coord y ++ " " ++ (if i == 0 then o.move else o.line) ++ "\n") ++
      o.stroke ++ "\n"
  | .circle c r width =>
    let (start, arcs) := circleArcs c r
    coord width ++ " " ++ o.width ++ " 0 " ++ o.gray ++ " " ++ o.dash [] ++ "\n" ++
      coord start.1 ++ " " ++ coord start.2 ++ " " ++ o.move ++ "\n" ++
      String.join (arcs.map fun (a, b, e) =>
        " ".intercalate ([a.1, a.2, b.1, b.2, e.1, e.2].map coord) ++ " " ++ o.curve ++ "\n") ++
      o.stroke ++ "\n"
  | .label p size text => o.text p size text

/-- The operators of PDF content streams. -/
def pdfOperators : Operators where
  move := "m"
  line := "l"
  curve := "c"
  stroke := "S"
  width := "w"
  gray := "G"
  dash := fun ds => "[" ++ " ".intercalate (ds.map coord) ++ "] 0 d"
  text := fun (x, y) size t =>
    "0 g BT /F1 " ++ coord size ++ " Tf " ++ coord x ++ " " ++ coord y ++ " Td " ++ psString t ++ " Tj ET\n"

/-- The shapes as a one-page PDF document on a page `side` points square. -/
def pdf (side : Float) (shapes : List Shape) : ByteArray :=
  let content := String.join (shapes.map pdfOperators.draw)
  let s := coord side
  let objects := [
    "<< /Type /Catalog /Pages 2 0 R >>",
    "<< /Type /Pages /Kids [3 0 R] /Count 1 >>",
    "<< /Type /Page /Parent 2 0 R /MediaBox [0 0 " ++ s ++ " " ++ s ++
      "] /Contents 4 0 R /Resources << /Font << /F1 5 0 R >> >> >>",
    "<< /Length " ++ toString content.utf8ByteSize ++ " >>\nstream\n" ++ content ++ "endstream",
    "<< /Type /Font /Subtype /Type1 /BaseFont /Helvetica >>"]
  let head := "%PDF-1.7\n"
  let (body, offsets) := objects.zipIdx.foldl (fun (acc : String × List Nat) (o, i) =>
    let (text, offs) := acc
    let off := head.utf8ByteSize + text.utf8ByteSize
    (text ++ toString (i + 1) ++ " 0 obj\n" ++ o ++ "\nendobj\n", offs ++ [off])) ("", [])
  let xrefAt := head.utf8ByteSize + body.utf8ByteSize
  let pad10 (n : Nat) : String := zeros (10 - (toString n).length) ++ toString n
  let xref := "xref\n0 " ++ toString (objects.length + 1) ++ "\n0000000000 65535 f \n" ++
    String.join (offsets.map fun o => pad10 o ++ " 00000 n \n")
  (head ++ body ++ xref ++ "trailer\n<< /Size " ++ toString (objects.length + 1) ++
    " /Root 1 0 R >>\nstartxref\n" ++ toString xrefAt ++ "\n%%EOF\n").toUTF8

/-- The operators of PostScript. -/
def psOperators : Operators where
  move := "moveto"
  line := "lineto"
  curve := "curveto"
  stroke := "stroke newpath"
  width := "setlinewidth"
  gray := "setgray"
  dash := fun ds => "[" ++ " ".intercalate (ds.map coord) ++ "] 0 setdash"
  text := fun (x, y) size t =>
    "0 setgray /Helvetica findfont " ++ coord size ++ " scalefont setfont " ++ coord x ++ " " ++
      coord y ++ " moveto " ++ psString t ++ " show newpath\n"

/-- The shapes as an encapsulated PostScript document of `side` points square. -/
def eps (side : Float) (shapes : List Shape) : String :=
  let s := toString (Float.ceil side).toUInt64.toNat
  "%!PS-Adobe-3.0 EPSF-3.0\n%%BoundingBox: 0 0 " ++ s ++ " " ++ s ++ "\n%%EndComments\nnewpath\n" ++
    String.join (shapes.map psOperators.draw) ++ "showpage\n%%EOF\n"

/-- Text escaped for TeX. -/
def texEscape (s : String) : String :=
  String.join (s.toList.map fun c =>
    if "#$%&_{}".toList.contains c then "\\" ++ c.toString
    else if c == '\\' then "\\textbackslash{}"
    else if c == '~' then "\\textasciitilde{}"
    else if c == '^' then "\\textasciicircum{}"
    else c.toString)

/-- A point in PGF. -/
def pgfPoint (p : Point) : String :=
  "\\pgfpoint" ++ "\x7b" ++ coord p.1 ++ "pt\x7d\x7b" ++ coord p.2 ++ "pt\x7d"

/-- A PGF command with one argument. -/
def pgf (name arg : String) : String := "\\" ++ name ++ "\x7b" ++ arg ++ "\x7d\n"

/-- The shapes as a standalone LaTeX document drawing with PGF. -/
def tex (side : Float) (shapes : List Shape) : String :=
  let shape : Shape → String
    | .path ps width gray dashes =>
      pgf "pgfsetlinewidth" (coord width ++ "pt") ++
        pgf "pgfsetstrokecolor" (if gray > 0.5 then "lightgray" else "black") ++
        "\\pgfsetdash\x7b" ++ String.join (dashes.map fun d => "\x7b" ++ coord d ++ "pt\x7d") ++ "\x7d\x7b0pt\x7d\n" ++
        String.join (ps.toList.zipIdx.map fun (p, i) =>
          pgf (if i == 0 then "pgfpathmoveto" else "pgfpathlineto") (pgfPoint p)) ++
        pgf "pgfusepath" "stroke"
    | .circle c r width =>
      pgf "pgfsetlinewidth" (coord width ++ "pt") ++
        "\\pgfpathcircle\x7b" ++ pgfPoint c ++ "\x7d\x7b" ++ coord r ++ "pt\x7d\n" ++ pgf "pgfusepath" "stroke"
    | .label p _ text => "\\pgftext[left,base,at=" ++ pgfPoint p ++ "]\x7b" ++ texEscape text ++ "\x7d\n"
  "\\documentclass\x7bstandalone\x7d\n\\usepackage\x7bpgf\x7d\n\\begin\x7bdocument\x7d\n" ++
    "\\begin\x7bpgfpicture\x7d\n" ++
    pgf "pgfpathrectangle" (pgfPoint (0, 0) ++ "\x7d\x7b" ++ pgfPoint (side, side)) ++
    pgf "pgfusepath" "use as bounding box" ++
    String.join (shapes.map shape) ++ "\\end\x7bpgfpicture\x7d\n\\end\x7bdocument\x7d\n"

end SailSim.Chart
