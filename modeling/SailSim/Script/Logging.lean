import SailSim.Script.Basic
import SailSim.Log.Zero

/-!
# The logging script

Three forms, chosen by `kind`, each answering the lines written to its buffers:

* `setup`: the program's logger, writing text lines to a file buffer and, with `graylog`, JSON
  lines to a second buffer, with the attributes of `context` added to every record. It logs
  `Logging initialized` first, then each of `records`.
* `handlers`: sinks at the levels of `inner` (a `null` entry is no sink) behind a fan-out, in a
  context handler when `context` is given, driven by `with`, `group`, `log` and `enabled`.
* `zerolog`: the event logger at `level`, writing to a console buffer and to the `extra`
  writers (`false` being no writer), fed by the `adapter` entries.

A record is `{"level", "msg", "attrs": [key, value, …]}`, its level read as log levels are
(an unknown one meaning info). In the attribute list a text followed by a value makes an
attribute, and anything else is kept under the key `!BADKEY`. Records carry no time.
-/

namespace SailSim.Script

open Json Log

/-- The lines of a buffer's text. -/
def linesOf (text : String) : Json :=
  .array (((text.splitOn "\n").filter (!·.isEmpty)).map .string)

/-- The lines of buffer `i`. -/
def bufferLines (bufs : Buffers) (i : Nat) : Json := linesOf (bufs.getD i "")

/-- Attributes from alternating keys and values. -/
def attrsOf : List Json → List Attr
  | [] => []
  | [.string k] => [("!BADKEY", .text k)]
  | .string k :: v :: rest => (k, Value.ofJson v) :: attrsOf rest
  | v :: rest => ("!BADKEY", Value.ofJson v) :: attrsOf rest

/-- Attributes from `[key, value]` pairs. -/
def pairAttrs (pairs : List (List Json)) : List Attr :=
  pairs.filterMap fun
    | [.string k, v] => some (k, Value.ofJson v)
    | [.string k] => some (k, .any .null)
    | _ => none

/-- A list of `[key, value]` pairs in member `k`. -/
def pairsIn (r : Fields) (k : String) : Outcome (List Attr) := do
  let pairs ← r.decode (Decoder.list "[][]interface \x7b\x7d" (Decoder.list "[]interface \x7b\x7d" Decoder.any .null) []) [] k
  pure (pairAttrs pairs)

/-- A record as requests describe it. -/
def recordOf (r : Fields) : Outcome Record := do
  let level := (Level.parse? (← r.text "level")).getD .info
  let attrs ← r.decode (Decoder.list "[]interface \x7b\x7d" Decoder.any .null) [] "attrs"
  pure { level, msg := ← r.text "msg", attrs := attrsOf attrs }

/-- The level the program's logger is set up with: a name ignoring case, else info. -/
def setupLevel (s : String) : Level :=
  match s.toUpper with
  | "DEBUG" => .debug
  | "WARN" => .warn
  | "ERROR" => .error
  | _ => .info

/-- The program's logger: text lines to buffer 0, JSON lines to buffer 1 when `graylog`, and
the attributes of the moment when `context`. -/
def programLogger (level : Level) (graylog context : Bool) : Handler :=
  let sink (out : Nat) (format : Format) : Handler := .sink { out, format, level }
  let fan : Handler := .fanOut ([sink 0 .text] ++ if graylog then [sink 1 .json] else [])
  if context then .context fan true else fan

/-- The `setup` form. -/
def setupScript (r : Fields) : Outcome Json := do
  let levelText ← r.text "level"
  let graylog ← r.flag "graylog"
  let context := !r.absent "context"
  let ctx ← pairsIn r "context"
  let h := programLogger (setupLevel levelText) graylog context
  let records ← (← r.records "records" "main.LogRecord").mapM recordOf
  let first : Record := { level := .info, msg := "Logging initialized",
                          attrs := [("level", .text levelText)] }
  let bufs := (first :: records).foldl (fun bufs rec => h.log ctx rec bufs) #["", ""]
  pure (.object [("defaultBefore", .bool true), ("file", bufferLines bufs 0),
    ("graylog", bufferLines bufs 1), ("flush", .bool true)])

/-- The `handlers` form. -/
def handlersScript (r : Fields) : Outcome Json := do
  let inner ← r.decode (Decoder.list "[]*string" Decoder.any .null) [] "inner"
  let sinks : List (Option Handler) := inner.zipIdx.map fun (j, i) => match j with
    | .string l => some (.sink { out := i, format := .text, level := (Level.parse? l).getD .info,
                                 dropTime := true })
    | _ => none
  let fan : Handler := .fanOut sinks.reduceOption
  let ctx ← pairsIn r "context"
  let h : Handler := if r.has "context" then .context fan (!r.absent "context") else fan
  let mut h := h
  let mut bufs : Buffers := Array.replicate inner.length ""
  let mut results := #[]
  for o in ← r.records "ops" "main.HandlerOp" do
    if o.has "with" then
      h := h.withAttrs (← pairsIn o "with")
      results := results.push (.string "ok")
    else if o.has "group" then
      h := h.withGroup (← o.text "group")
      results := results.push (.string "ok")
    else if o.has "log" then
      bufs := h.log ctx (← recordOf (← o.record "log" "main.LogRecord")) bufs
      results := results.push (.string "ok")
    else if o.has "enabled" then
      results := results.push (.bool (h.enabled ((Level.parse? (← o.text "enabled")).getD .info)))
    else badInput "empty handler op"
  let outputs := inner.zipIdx.map fun (j, i) => match j with
    | .null => .null
    | _ => bufferLines bufs i
  pure (.object [("results", .array results.toList), ("outputs", .array outputs)])

/-- The `zerolog` form. -/
def zerologScript (r : Fields) : Outcome Json := do
  let levels ← r.decode (Decoder.list "[]string" Decoder.string "") [] "levels"
  let console ← r.flag "console"
  let extra ← r.decode (Decoder.list "[]bool" Decoder.bool false) [] "extra"
  let first := if console then 1 else 0
  let writers := extra.zipIdx.filterMap fun (b, i) => if b then some (first + i) else none
  let z := ZLogger.new (← r.text "level") (if console then some 0 else none) writers
  let mut bufs : Buffers := Array.replicate (first + extra.length) ""
  for a in ← r.records "adapter" "main.AdapterEntry" do
    let level := match ← a.text "level" with
      | "debug" => ZLevel.debug
      | "error" => .error
      | _ => .info
    let kv ← a.decode (Decoder.list "[]interface \x7b\x7d" Decoder.any .null) [] "kv"
    bufs := z.write none ⟨level, fieldsOf (kv.map Value.ofJson), ← a.text "msg"⟩ bufs
  let extraOut := extra.zipIdx.map fun (b, i) => if b then bufferLines bufs (first + i) else .null
  pure (.object ([("levels", .array (levels.map fun l => .string (ZLevel.ofName l).name)),
    ("level", .string z.level.name), ("extra", .array extraOut)] ++
    (if console then [("console", bufferLines bufs 0)] else [])))

/-- The logging script. -/
def loggingScript (r : Fields) : Outcome Json := do
  match ← r.text "kind" with
  | "setup" => setupScript r
  | "handlers" => handlersScript r
  | "zerolog" => zerologScript r
  | k => badInput ("unknown kind " ++ k)

end SailSim.Script
