import SailSim.Time.Duration
import SailSim.Text.ReadFloat
import SailSim.Text.Number
import SailSim.Text.Quote

/-!
# Command-line flags

A command names its flags, each with a kind of value, a default and a line of help. Reading a
command line takes flags from its front:

* `-name value`, `-name=value`, and the same with two dashes; a lone `--` ends the flags and is
  dropped; the first argument that is not a flag (a lone `-` among them) ends them too;
* a name that is empty or starts with `-` or `=` is bad syntax;
* `-h` and `-help`, when not defined, ask for help;
* a flag that is not defined, or that lacks its value, is an error, as is a value that its kind
  cannot read: `parse error`, or `value out of range` for a float beyond the largest.

A flag given twice keeps its last value. On an error the message and the usage are written to
the error output; a request for help writes the usage alone. The usage lists the flags sorted
by name, each with the name of its kind and, on the next line, its help and any default other
than the zero value.
-/

namespace SailSim.Cli

/-- The kind of value a flag takes. -/
inductive FlagKind where
  | text
  | duration
  | float
  deriving Repr, BEq, Inhabited

/-- A flag's value. -/
inductive FlagValue where
  | text (s : String)
  /-- Nanoseconds. -/
  | duration (ns : Int)
  | float (x : Float)
  deriving Repr, Inhabited

/-- A flag. -/
structure Flag where
  name : String
  default : FlagValue
  help : String
  deriving Repr, Inhabited

/-- The kind of a value. -/
def FlagValue.kind : FlagValue → FlagKind
  | .text _ => .text
  | .duration _ => .duration
  | .float _ => .float

/-- A value written as usage shows defaults. -/
def FlagValue.shown : FlagValue → String
  | .text s => s
  | .duration ns => Duration.text ns
  | .float x => FloatStyle.general.render x

/-- Whether a value is its kind's zero value. -/
def FlagValue.isZero : FlagValue → Bool
  | .text s => s.isEmpty
  | .duration ns => ns == 0
  | .float x => x == 0

/-- The name usage gives a kind's values. -/
def FlagKind.valueName : FlagKind → String
  | .text => "string"
  | .duration => "duration"
  | .float => "float"

/-- Reads a value of a kind. -/
def FlagKind.read (k : FlagKind) (s : String) : Except String FlagValue :=
  match k with
  | .text => .ok (.text s)
  | .duration => match Duration.parse s with
    | .ok ns => .ok (.duration ns)
    | .error _ => .error "parse error"
  | .float => match Text.readFloat s with
    | .ok x => .ok (.float x)
    | .error .range => .error "value out of range"
    | .error .invalid => .error "parse error"

/-- A command's flags. -/
structure FlagSet where
  /-- The command's name, as usage shows it. -/
  command : String
  flags : List Flag
  deriving Repr, Inhabited

/-- Why reading flags stopped. -/
inductive FlagError where
  /-- Help was asked for. -/
  | help
  | failed (message : String)
  deriving Repr, BEq

/-- The flags read: each flag's value, defaults for those not given. -/
structure Flags where
  values : List (String × FlagValue)
  /-- The arguments after the flags. -/
  rest : List String
  deriving Repr, Inhabited

namespace Flags

/-- The value of flag `name`. -/
def get? (f : Flags) (name : String) : Option FlagValue := f.values.lookup name

/-- A text flag's value, empty when missing. -/
def text (f : Flags) (name : String) : String :=
  match f.get? name with
  | some (.text s) => s
  | _ => ""

/-- A duration flag's value in nanoseconds, zero when missing. -/
def duration (f : Flags) (name : String) : Int :=
  match f.get? name with
  | some (.duration ns) => ns
  | _ => 0

/-- A float flag's value, zero when missing. -/
def float (f : Flags) (name : String) : Float :=
  match f.get? name with
  | some (.float x) => x
  | _ => 0

end Flags

namespace FlagSet

/-- The usage, one line a row. -/
def usage (fs : FlagSet) : List String :=
  ("Usage of " ++ fs.command ++ ":") ::
    (fs.flags.mergeSort fun a b => decide (a.name ≤ b.name)).flatMap fun f =>
      let default :=
        if f.default.isZero then ""
        else match f.default with
          | .text s => " (default " ++ Text.quote s ++ ")"
          | v => " (default " ++ v.shown ++ ")"
      ["  -" ++ f.name ++ " " ++ f.default.kind.valueName, "    \t" ++ f.help ++ default]

/-- The flag named `name`. -/
def find? (fs : FlagSet) (name : String) : Option Flag := fs.flags.find? (·.name == name)

/-- Reads flags from the front of `args`, starting from `values`. -/
def readFrom (fs : FlagSet) : List String → List (String × FlagValue) → Except FlagError Flags
  | [], values => .ok ⟨values, []⟩
  | arg :: args, values =>
    let cs := arg.toList
    if cs.length < 2 || cs.head? != some '-' then .ok ⟨values, arg :: args⟩
    else if arg == "--" then .ok ⟨values, args⟩
    else
      let body := if cs.getD 1 ' ' == '-' then cs.drop 2 else cs.drop 1
      if body.isEmpty || body.head? == some '-' || body.head? == some '=' then
        .error (.failed ("bad flag syntax: " ++ arg))
      else
        let (name, value?) := match body.findIdx? (· == '=') with
          | some i => (String.ofList (body.take i), some (String.ofList (body.drop (i + 1))))
          | none => (String.ofList body, none)
        match fs.find? name with
        | none =>
          if name == "help" || name == "h" then .error .help
          else .error (.failed ("flag provided but not defined: -" ++ name))
        | some f =>
          let assign := fun (v : String) => match f.default.kind.read v with
            | .error e => Except.error
                (FlagError.failed ("invalid value " ++ Text.quote v ++ " for flag -" ++ name ++ ": " ++ e))
            | .ok x => .ok ((values.filter (·.1 != name)) ++ [(name, x)])
          match value?, args with
          | some v, rest => assign v >>= readFrom fs rest
          | none, v :: rest => assign v >>= readFrom fs rest
          | none, [] => .error (.failed ("flag needs an argument: -" ++ name))
termination_by args => args.length

/-- Reads a command line: the flags, or why not, with what is written to the error output. -/
def parse (fs : FlagSet) (args : List String) : Except FlagError Flags × List String :=
  match fs.readFrom args (fs.flags.map fun f => (f.name, f.default)) with
  | .ok f => (.ok f, [])
  | .error .help => (.error .help, fs.usage)
  | .error (.failed m) => (.error (.failed m), m :: fs.usage)

end FlagSet

end SailSim.Cli
