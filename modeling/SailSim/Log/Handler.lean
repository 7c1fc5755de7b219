import SailSim.Log.Value
import SailSim.Time.Instant

/-!
# Structured log handlers

A log record has a time, a level, a message and attributes. Handlers decide which records to
keep and how to write them:

* A sink writes each record it accepts as one line to its buffer, in text form
  (`time=… level=INFO msg=hello k=v`) or as a JSON object. It keeps records at or above its
  level. Attributes it was given beforehand (`withAttrs`) come first, then the record's own;
  groups (`withGroup`) qualify the keys of later attributes, as `g.k` in text and as nested
  objects in JSON. A group with no attribute in a record is left out of it.
* A fan-out hands each record to every handler that keeps its level, and keeps a level when
  any of them does.
* A context handler adds the attributes of the moment (such as the current run) to every
  record, after the record's own.

A sink may drop attributes named `time` outside any group, the record's time among them.
-/

namespace SailSim.Log

/-- A log record. -/
structure Record where
  /-- When the record was made; none for no time. -/
  time : Option Instant := none
  level : Level
  msg : String
  attrs : List Attr := []
  deriving Inhabited

/-- How a sink writes a record. -/
inductive Format where
  | text
  | json
  deriving Repr, BEq, Inhabited

/-- A handler that writes records to a buffer. -/
structure Sink where
  /-- The buffer written to. -/
  out : Nat
  format : Format
  /-- The lowest level kept. -/
  level : Level
  /-- Whether attributes named `time` outside any group are dropped. -/
  dropTime : Bool := false
  /-- The groups opened so far, outermost first. -/
  groups : List String := []
  /-- How many of the groups are already open in `pre` (JSON). -/
  opened : Nat := 0
  /-- The attributes given beforehand, already written. -/
  pre : String := ""
  deriving Inhabited

namespace Sink

/-- Whether an attribute is left out entirely: no key and no value. -/
def elided (a : Attr) : Bool :=
  a.1.isEmpty && match a.2 with
    | .any .null => true
    | _ => false

/-- Whether an attribute is written when `inGroup` tells whether it is inside a group. -/
def keeps (s : Sink) (inGroup : Bool) (a : Attr) : Bool :=
  !elided a && !(s.dropTime && !inGroup && a.1 == "time")

/-- An attribute as written, its key after `keyPrefix` in text form. -/
def attrText (s : Sink) (keyPrefix : String) (a : Attr) : String :=
  match s.format with
  | .text => textForm (keyPrefix ++ a.1) ++ "=" ++ a.2.textForm
  | .json => jsonString a.1 ++ ":" ++ a.2.jsonForm

/-- The separator between attributes. -/
def sep (s : Sink) : String := if s.format == .text then " " else ","

/-- The prefix of keys inside every group, in text form. -/
def groupPrefix (s : Sink) : String := String.join (s.groups.map (· ++ "."))

/-- The groups not yet open in `pre`, opened (JSON). -/
def openRest (s : Sink) : List String :=
  (s.groups.drop s.opened).map fun g => jsonString g ++ ":\x7b"

/-- Joins JSON pieces, no separator after an opening brace. -/
def joinJson : List String → String
  | [] => ""
  | [x] => x
  | x :: y :: rest => x ++ (if x.endsWith "\x7b" then "" else ",") ++ joinJson (y :: rest)

/-- The sink with attributes written beforehand. -/
def withAttrs (s : Sink) (as : List Attr) : Sink :=
  let kept := as.filter (s.keeps (!s.groups.isEmpty))
  if (as.filter fun a => !elided a).isEmpty then s else
  if kept.isEmpty then s else
  match s.format with
  | .text =>
    let body := " ".intercalate (kept.map (s.attrText s.groupPrefix))
    { s with pre := if s.pre.isEmpty then body else s.pre ++ " " ++ body }
  | .json =>
    let pieces := s.openRest ++ kept.map (s.attrText "")
    { s with pre := joinJson ((if s.pre.isEmpty then [] else [s.pre]) ++ pieces),
             opened := s.groups.length }

/-- The sink with a group opened. -/
def withGroup (s : Sink) (name : String) : Sink := { s with groups := s.groups ++ [name] }

/-- The line a record is written as. -/
def line (s : Sink) (r : Record) : String :=
  let inGroup := !s.groups.isEmpty
  let own := r.attrs.filter (s.keeps inGroup)
  let time := match r.time with
    | some t => if s.dropTime then [] else [("time", Value.text { t with offset := 0, nanos := 0 }.format)]
    | none => []
  let builtIn : List Attr := time ++ [("level", .text r.level.text), ("msg", .text r.msg)]
  match s.format with
  | .text =>
    " ".intercalate (builtIn.map (s.attrText "") ++ (if s.pre.isEmpty then [] else [s.pre]) ++
      own.map (s.attrText s.groupPrefix)) ++ "\n"
  | .json =>
    let opened := if own.isEmpty then s.opened else s.groups.length
    let pieces := builtIn.map (s.attrText "") ++ (if s.pre.isEmpty then [] else [s.pre]) ++
      (if own.isEmpty then [] else s.openRest ++ own.map (s.attrText ""))
    "\x7b" ++ joinJson pieces ++ String.ofList (List.replicate opened '\x7d') ++ "\x7d\n"

end Sink

/-- A log handler. -/
inductive Handler where
  | sink (s : Sink)
  /-- Every handler of the list. -/
  | fanOut (hs : List Handler)
  /-- The inner handler, with the attributes of the moment added to each record when
  `provided` is set. -/
  | context (inner : Handler) (provided : Bool)
  deriving Inhabited

/-- Buffers of written text, by index. -/
abbrev Buffers := Array String

namespace Handler

mutual

/-- Whether a record of level `l` is kept. -/
def enabled : Handler → Level → Bool
  | .sink s, l => l.value ≥ s.level.value
  | .fanOut hs, l => enabledAny hs l
  | .context inner _, l => enabled inner l

/-- Whether any handler of a list keeps level `l`. -/
def enabledAny : List Handler → Level → Bool
  | [], _ => false
  | h :: hs, l => enabled h l || enabledAny hs l

end

mutual

/-- Writes a record through a handler, with `ctx` the attributes of the moment. -/
def handle : Handler → List Attr → Record → Buffers → Buffers
  | .sink s, _, r, bufs =>
    if s.out < bufs.size then bufs.modify s.out (· ++ s.line r) else bufs
  | .fanOut hs, ctx, r, bufs => handleAll hs ctx r bufs
  | .context inner provided, ctx, r, bufs =>
    handle inner ctx (if provided then { r with attrs := r.attrs ++ ctx } else r) bufs

/-- Writes a record through every handler of a list that keeps its level. -/
def handleAll : List Handler → List Attr → Record → Buffers → Buffers
  | [], _, _, bufs => bufs
  | h :: hs, ctx, r, bufs =>
    handleAll hs ctx r (if enabled h r.level then handle h ctx r bufs else bufs)

end

mutual

/-- The handler with attributes added beforehand. -/
def withAttrs : Handler → List Attr → Handler
  | .sink s, as => .sink (s.withAttrs as)
  | .fanOut hs, as => .fanOut (withAttrsAll hs as)
  | .context inner p, as => .context (withAttrs inner as) p

/-- Every handler of a list with attributes added beforehand. -/
def withAttrsAll : List Handler → List Attr → List Handler
  | [], _ => []
  | h :: hs, as => withAttrs h as :: withAttrsAll hs as

end

mutual

/-- The handler with a group opened; an empty name changes nothing. -/
def withGroup : Handler → String → Handler
  | .sink s, name => .sink (s.withGroup name)
  | .fanOut hs, name => if name.isEmpty then .fanOut hs else .fanOut (withGroupAll hs name)
  | .context inner p, name => if name.isEmpty then .context inner p else .context (withGroup inner name) p

/-- Every handler of a list with a group opened. -/
def withGroupAll : List Handler → String → List Handler
  | [], _ => []
  | h :: hs, name => withGroup h name :: withGroupAll hs name

end

/-- Logs a record: written when the handler keeps its level. -/
def log (h : Handler) (ctx : List Attr) (r : Record) (bufs : Buffers) : Buffers :=
  if h.enabled r.level then h.handle ctx r bufs else bufs

end Handler

end SailSim.Log
