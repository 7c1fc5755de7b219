import SailSim.Log.Handler

/-!
# Leveled event logging

The event logger used by the database and telemetry links writes each event as one JSON line
to every writer it has: `{"level":"info","time":…,<fields>,"message":…}`, fields sorted by key.
A console writer instead prints the line for people: the time, a three-letter level (`DBG`,
`INF`, `ERR`, …), the message and `key=value` fields sorted by key, an `error` field first.

Its levels run from trace to panic; a logger with no writer at all is disabled and writes
nothing. Level names are read ignoring case, an unknown one meaning info.

Field values are written as JSON: texts escaped (`\b`, `\f`, `\n`, `\r`, `\t`, other
control characters and DEL as `\u00XX`), floats in the shortest form that reads back and the
non-finite ones as the texts `NaN`, `+Inf`, `-Inf`, durations as milliseconds.
-/

namespace SailSim.Log

open Json

/-- An event logger's level. -/
inductive ZLevel where
  | trace | debug | info | warn | error | fatal | panic | disabled
  deriving Repr, BEq, Inhabited

namespace ZLevel

/-- The rank of a level: events below the logger's rank are dropped. -/
def rank : ZLevel → Int
  | .trace => -1 | .debug => 0 | .info => 1 | .warn => 2 | .error => 3 | .fatal => 4
  | .panic => 5 | .disabled => 7

/-- The level's name. -/
def name : ZLevel → String
  | .trace => "trace" | .debug => "debug" | .info => "info" | .warn => "warn"
  | .error => "error" | .fatal => "fatal" | .panic => "panic" | .disabled => "disabled"

/-- The level's three letters on the console. -/
def short : ZLevel → String
  | .trace => "TRC" | .debug => "DBG" | .info => "INF" | .warn => "WRN"
  | .error => "ERR" | .fatal => "FTL" | .panic => "PNC" | .disabled => "disabled"

/-- The level a configured name selects: trace, debug, warn or error ignoring case, else info. -/
def ofName (s : String) : ZLevel :=
  match s.toUpper with
  | "TRACE" => .trace
  | "DEBUG" => .debug
  | "WARN" => .warn
  | "ERROR" => .error
  | _ => .info

end ZLevel

/-- One character of a JSON string as events write it. -/
def zEscape (c : Char) : String :=
  match c with
  | '"' => "\\\""
  | '\\' => "\\\\"
  | '\x08' => "\\b"
  | '\x0c' => "\\f"
  | '\n' => "\\n"
  | '\r' => "\\r"
  | '\t' => "\\t"
  | _ =>
    let n := c.toNat
    if n < 0x20 || n == 0x7F then "\\u" ++ Text.hexDigits n 4 else c.toString

/-- A JSON string literal as events write it. -/
def zString (s : String) : String := "\"" ++ String.join (s.toList.map zEscape) ++ "\""

/-- A field value in an event's JSON line. -/
def Value.zForm : Value → String
  | .text s => zString s
  | .float x => if x.isNaN || x.isInf then "\"" ++ jsonFloat.render x ++ "\"" else jsonFloat.render x
  | .int n => toString n
  | .flag b => if b then "true" else "false"
  | .duration ns => jsonFloat.render (Float.ofInt ns / 1e6)
  | .any j => Json.compact j

/-- Whether a text field is quoted on the console. -/
def consoleQuoted (s : String) : Bool :=
  s.toList.any fun c => c.toNat < 0x20 || c.toNat > 0x7E || c == ' ' || c == '\\' || c == '"'

/-- A field value on the console. -/
def Value.consoleForm : Value → String
  | .text s => if consoleQuoted s then Text.quote s else s
  | .float x => jsonFloat.render x
  | v => v.zForm

/-- An event: its level, fields and message. -/
structure Event where
  level : ZLevel
  fields : List Attr
  message : String
  deriving Inhabited

/-- Fields from alternating keys and values: a key that is not a text is skipped with its
value, an odd value at the end is dropped, and a repeated key keeps its last value; sorted by
key. -/
def fieldsOf (kvs : List Value) : List Attr :=
  let rec pairs : List Value → List Attr
    | .text k :: v :: rest => (k, v) :: pairs rest
    | _ :: _ :: rest => pairs rest
    | _ => []
  let kept := (pairs kvs).foldl (fun acc (k, v) => (acc.filter (·.1 != k)) ++ [(k, v)]) []
  kept.mergeSort fun a b => decide (a.1 ≤ b.1)

namespace Event

/-- The event's JSON line, with its time when there is one. -/
def jsonLine (e : Event) (time : Option String) : String :=
  "\x7b\"level\":" ++ zString e.level.name ++
    (match time with | some t => ",\"time\":" ++ zString t | none => "") ++
    String.join (e.fields.map fun (k, v) => "," ++ zString k ++ ":" ++ v.zForm) ++
    ",\"message\":" ++ zString e.message ++ "\x7d\n"

/-- The event's console line, with its time when there is one. -/
def consoleLine (e : Event) (time : Option String) : String :=
  let fields := (e.fields.filter (·.1 == "error")) ++ e.fields.filter fun (k, _) =>
    k != "error" && k != "level" && k != "time" && k != "message" && k != "caller"
  let parts := time.toList ++ [e.level.short] ++ (if e.message.isEmpty then [] else [e.message])
  let head := " ".intercalate parts
  let tail := " ".intercalate (fields.map fun (k, v) => k ++ "=" ++ v.consoleForm)
  (if tail.isEmpty then head else head ++ " " ++ tail) ++ "\n"

end Event

/-- An event logger: its level, an optional console buffer, and buffers for JSON lines. -/
structure ZLogger where
  level : ZLevel
  console : Option Nat := none
  writers : List Nat := []
  deriving Inhabited

namespace ZLogger

/-- The logger writing to a console and to other writers at a named level; without any writer
it is disabled. -/
def new (level : String) (console : Option Nat) (writers : List Nat) : ZLogger :=
  if console.isNone && writers.isEmpty then { level := .disabled }
  else { level := ZLevel.ofName level, console, writers }

/-- Writes an event made at `time`, if any, when the logger's level lets it through. -/
def write (z : ZLogger) (time : Option Instant) (e : Event) (bufs : Buffers) : Buffers :=
  if z.level == .disabled || e.level.rank < z.level.rank then bufs
  else
    let stamp := time.map fun t => { t with nanos := 0 }.format
    let add (bufs : Buffers) (i : Nat) (text : String) : Buffers :=
      if i < bufs.size then bufs.modify i (· ++ text) else bufs
    let bufs := match z.console with
      | some i => add bufs i (e.consoleLine stamp)
      | none => bufs
    z.writers.foldl (fun bufs i => add bufs i (e.jsonLine stamp)) bufs

end ZLogger

end SailSim.Log
