import SailSim.Json.Value
import SailSim.Text.Number
import SailSim.Text.Quote

/-!
# Writing JSON

Compact JSON text: no blanks between tokens. A string escapes the quote, the backslash and
control characters (`\b`, `\f`, `\n`, `\r`, `\t`, else `\u00XX`); with `escapeHtml` it also writes `<`,
`>`, `&`, U+2028 and U+2029 as `\u` escapes, as the program's own encoder does. Floats use
`jsonFloat`: shortest digits, positional from `1e-6` up to `1e21`, exponent form elsewhere.
-/

namespace SailSim

/-- Floats in JSON text: positional for leading exponents -7 to 20, else `1e-7`, `1e+21`. -/
def jsonFloat : FloatStyle := ⟨-6, 21, 2, 1, "NaN", "+Inf", "-Inf"⟩

namespace Json

/-- A finite float as a JSON number. -/
def float (x : Float) : Json := .number (jsonFloat.render x)

/-- The escaped text of one character inside a JSON string. -/
def escapeChar (escapeHtml : Bool) (c : Char) : String :=
  match c with
  | '"' => "\\\""
  | '\\' => "\\\\"
  | '\n' => "\\n"
  | '\r' => "\\r"
  | '\t' => "\\t"
  | '\x08' => "\\b"
  | '\x0c' => "\\f"
  | _ =>
    let n := c.toNat
    if n < 0x20 then "\\u" ++ Text.hexDigits n 4
    else if escapeHtml && (c == '<' || c == '>' || c == '&' || n == 0x2028 || n == 0x2029) then
      "\\u" ++ Text.hexDigits n 4
    else c.toString

/-- A string as a JSON string literal. -/
def quoteString (escapeHtml : Bool) (s : String) : String :=
  "\"" ++ String.join (s.toList.map (escapeChar escapeHtml)) ++ "\""

mutual
/-- Compact JSON text of a value. -/
def render (escapeHtml : Bool) : Json → String
  | .null => "null"
  | .bool b => if b then "true" else "false"
  | .number lit => lit
  | .string s => quoteString escapeHtml s
  | .array items => "[" ++ renderItems escapeHtml items ++ "]"
  | .object ms => "\x7b" ++ renderMembers escapeHtml ms ++ "\x7d"

/-- Array items separated by commas. -/
def renderItems (escapeHtml : Bool) : List Json → String
  | [] => ""
  | [x] => render escapeHtml x
  | x :: xs => render escapeHtml x ++ "," ++ renderItems escapeHtml xs

/-- Object members separated by commas. -/
def renderMembers (escapeHtml : Bool) : List (String × Json) → String
  | [] => ""
  | [(k, v)] => quoteString escapeHtml k ++ ":" ++ render escapeHtml v
  | (k, v) :: ms =>
    quoteString escapeHtml k ++ ":" ++ render escapeHtml v ++ "," ++ renderMembers escapeHtml ms
end

/-- Compact JSON text as the program's encoder writes it, HTML characters escaped. -/
def compact (j : Json) : String := render true j

mutual
/-- JSON text with each item and member on a line of its own, indented by two spaces a level;
`pad` is the indentation of the value's own line. Empty arrays and objects stay on one line. -/
def pretty (pad : String) : Json → String
  | .array [] => "[]"
  | .object [] => "\x7b\x7d"
  | .array items => "[\n" ++ prettyItems (pad ++ "  ") items ++ "\n" ++ pad ++ "]"
  | .object ms => "\x7b\n" ++ prettyMembers (pad ++ "  ") ms ++ "\n" ++ pad ++ "\x7d"
  | j => render true j

/-- Array items, one a line. -/
def prettyItems (pad : String) : List Json → String
  | [] => ""
  | [x] => pad ++ pretty pad x
  | x :: xs => pad ++ pretty pad x ++ ",\n" ++ prettyItems pad xs

/-- Object members, one a line. -/
def prettyMembers (pad : String) : List (String × Json) → String
  | [] => ""
  | [(k, v)] => pad ++ quoteString true k ++ ": " ++ pretty pad v
  | (k, v) :: ms => pad ++ quoteString true k ++ ": " ++ pretty pad v ++ ",\n" ++ prettyMembers pad ms
end

end Json

end SailSim
