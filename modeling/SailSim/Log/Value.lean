import SailSim.Json.Write
import SailSim.Time.Duration
import SailSim.Text.ReadInt

/-!
# Log levels and attribute values

A log level is an integer: debug is -4, info 0, warn 4 and error 8, and a level between them is
written from the one below it with an offset, such as `ERROR+2` or `INFO-1`. Reading a level
ignores case and accepts such an offset.

An attribute is a key with a value: a text, a float, an integer, a flag, a duration, or any other
value, held as JSON and printed the way the values of decoded JSON print (`[1 2]`,
`map[x:1]`, `<nil>`).

In text form a key or text value is written as it is, or quoted when it is empty or holds a
space, an equals sign, a quote, a control character, or a character that is not printable.
-/

namespace SailSim.Log

open Json

/-- A log level. -/
structure Level where
  value : Int
  deriving Repr, BEq, Inhabited

namespace Level

/-- The debug level. -/
def debug : Level := ⟨-4⟩
/-- The info level. -/
def info : Level := ⟨0⟩
/-- The warn level. -/
def warn : Level := ⟨4⟩
/-- The error level. -/
def error : Level := ⟨8⟩

/-- The level's name, with the offset from the named level below it. -/
def text (l : Level) : String :=
  let named (base : String) (off : Int) : String :=
    if off == 0 then base else if off > 0 then base ++ "+" ++ toString off else base ++ toString off
  if l.value < 0 then named "DEBUG" (l.value + 4)
  else if l.value < 4 then named "INFO" l.value
  else if l.value < 8 then named "WARN" (l.value - 4)
  else named "ERROR" (l.value - 8)

/-- Reads a level name, ignoring case, with an optional signed offset. -/
def parse? (s : String) : Option Level := do
  let cs := s.toList
  let i := cs.findIdx fun c => c == '+' || c == '-'
  let (name, off) ← if i < cs.length then
      pure (String.ofList (cs.take i), ← Text.readDecimal (String.ofList (cs.drop i)))
    else pure (s, 0)
  let base ← match name.toUpper with
    | "DEBUG" => some (-4)
    | "INFO" => some 0
    | "WARN" => some 4
    | "ERROR" => some 8
    | _ => none
  pure ⟨base + off⟩

end Level

/-- The value of an attribute. -/
inductive Value where
  | text (s : String)
  | float (x : Float)
  | int (n : Int)
  | flag (b : Bool)
  | duration (ns : Int)
  /-- Any other value, as decoded JSON. -/
  | any (j : Json)
  deriving Inhabited

/-- An attribute: a key and its value. -/
abbrev Attr := String × Value

/-- The value of a decoded JSON value as an attribute: a float, text or flag as such, anything
else as it is. -/
def Value.ofJson : Json → Value
  | .string s => .text s
  | .bool b => .flag b
  | .number lit => .float ((Text.readFloat lit).toOption.getD 0)
  | j => .any j

mutual

/-- A decoded JSON value printed as the values of decoded JSON print. -/
def goText : Json → String
  | .null => "<nil>"
  | .bool b => if b then "true" else "false"
  | .number lit => FloatStyle.general.render ((Text.readFloat lit).toOption.getD 0)
  | .string s => s
  | .array xs => "[" ++ goItems xs ++ "]"
  | .object ms => "map[" ++ goMembers ms ++ "]"

/-- Items separated by spaces. -/
def goItems : List Json → String
  | [] => ""
  | [x] => goText x
  | x :: xs => goText x ++ " " ++ goItems xs

/-- Members as `key:value`, separated by spaces. -/
def goMembers : List (String × Json) → String
  | [] => ""
  | [(k, v)] => k ++ ":" ++ goText v
  | (k, v) :: ms => k ++ ":" ++ goText v ++ " " ++ goMembers ms

end

/-- Whether a text must be quoted in text form. -/
def needsQuoting (s : String) : Bool :=
  s.isEmpty || s.toList.any fun c =>
    let n := c.toNat
    if n < 0x80 then c == ' ' || c == '=' || c == '"' || n < 0x20
    else n == 0xFFFD || !Text.isPrintable c

/-- A text in text form: as it is, or quoted. -/
def textForm (s : String) : String := if needsQuoting s then Text.quote s else s

/-- A value in text form. -/
def Value.textForm : Value → String
  | .text s => Log.textForm s
  | .float x => FloatStyle.general.render x
  | .int n => toString n
  | .flag b => if b then "true" else "false"
  | .duration ns => Duration.text ns
  | .any j => Log.textForm (goText j)

/-- One character of a JSON string as log records write it: the quote, the backslash and
control characters escaped (`\n`, `\r`, `\t`, else `\u00XX`), U+2028 and U+2029 too. -/
def jsonEscape (c : Char) : String :=
  match c with
  | '"' => "\\\""
  | '\\' => "\\\\"
  | '\n' => "\\n"
  | '\r' => "\\r"
  | '\t' => "\\t"
  | _ =>
    let n := c.toNat
    if n < 0x20 || n == 0x2028 || n == 0x2029 then "\\u" ++ Text.hexDigits n 4 else c.toString

/-- A JSON string literal as log records write it. -/
def jsonString (s : String) : String := "\"" ++ String.join (s.toList.map jsonEscape) ++ "\""

/-- A value in JSON form. -/
def Value.jsonForm : Value → String
  | .text s => jsonString s
  | .float x =>
    if x.isNaN || x.isInf then
      "\"!ERROR:json: unsupported value: " ++ FloatStyle.general.render x ++ "\""
    else jsonFloat.render x
  | .int n => toString n
  | .flag b => if b then "true" else "false"
  | .duration ns => toString ns
  | .any j => Json.render false j

end SailSim.Log
