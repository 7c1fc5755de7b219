import SailSim.Json.Value
import SailSim.Text.ReadInt
import SailSim.Text.Number
import SailSim.Time.Duration

/-!
# Reading a setting as a value of a type

A setting holds a JSON value: `null`, a flag, a number, a text, a list or an object. Each
typed reading accepts what can reasonably stand for a value of its type and gives the zero
value for anything else, without an error:

* as text: a text itself, a flag as `true`/`false`, a number in plain decimal notation,
  `null` and anything else as the empty text;
* as a float: a number, a text that reads as a float (an out-of-range one gives zero), a flag
  as 1 or 0;
* as an integer: a number truncated toward zero, a text read with its base prefix after a
  trailing `.000` is cut off, a flag as 1 or 0;
* as a flag: a flag, a number other than zero, a text such as `true`, `T` or `1`;
* as a duration in nanoseconds: a number truncated, a text with a unit read as a duration
  and a text without one read as nanoseconds.

A float beyond the range of a 64-bit integer truncates to `-2⁶³`, the value the hardware
conversion gives.
-/

namespace SailSim.Config

open Json

/-- The float a number literal stands for. -/
def literalFloat (lit : String) : Float := (Text.readFloat lit).toOption.getD 0

/-- A float truncated to a 64-bit integer; out of range, `-2⁶³`. -/
def truncate (x : Float) : Int :=
  if x.isNaN || x ≥ 9223372036854775808.0 || x < -9223372036854775808.0 then -(Int.pow 2 63)
  else
    let m := x.abs.toUInt64.toNat
    if x < 0 then -(m : Int) else m

/-- Drops a fraction made only of zeros, with its point: `3.00` is `3`, but `3.` stays. -/
def trimZeroDecimal (s : String) : String :=
  let cs := s.toList.reverse
  let zeros := cs.takeWhile (· == '0')
  match cs.drop zeros.length with
  | '.' :: rest => if zeros.isEmpty then s else String.ofList rest.reverse
  | _ => s

/-- A setting as text. -/
def asText : Json → String
  | .string s => s
  | .bool b => if b then "true" else "false"
  | .number lit => FloatStyle.plain.render (literalFloat lit)
  | _ => ""

/-- A setting as a float. -/
def asFloat : Json → Float
  | .number lit => literalFloat lit
  | .string s => match Text.readFloat s with
    | .ok x => x
    | .error _ => 0
  | .bool b => if b then 1 else 0
  | _ => 0

/-- A setting as an integer. -/
def asInt : Json → Int
  | .number lit => truncate (literalFloat lit)
  | .string s => (Text.readInt (trimZeroDecimal s)).getD 0
  | .bool b => if b then 1 else 0
  | _ => 0

/-- A setting as a flag. -/
def asBool : Json → Bool
  | .bool b => b
  | .number lit => literalFloat lit != 0
  | .string s => (Text.readBool s).getD false
  | _ => false

/-- A setting as a duration in nanoseconds. -/
def asDuration : Json → Int
  | .number lit => truncate (literalFloat lit)
  | .string s =>
    let withUnit := s.toList.any fun c => "nsuµmh".toList.contains c
    (Duration.parse (if withUnit then s else s ++ "ns")).toOption.getD 0
  | _ => 0

end SailSim.Config
