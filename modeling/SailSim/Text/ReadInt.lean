import SailSim.Text.ReadFloat

/-!
# Reading integers and flags

`readInt` reads a signed 64-bit integer whose base its prefix gives: `0x` hexadecimal, `0o`
octal, `0b` binary, a bare leading `0` octal, decimal otherwise. Underscores may separate
digits, or a prefix from a digit. `readDecimal` reads a plain signed decimal integer, without
underscores. Both refuse a value outside `-2⁶³ ..= 2⁶³ - 1`.

`readBool` reads `1`, `t`, `T`, `true`, `TRUE`, `True` as true and `0`, `f`, `F`, `false`,
`FALSE`, `False` as false.
-/

namespace SailSim.Text

/-- The value of a digit in bases up to 36. -/
def digitValue (c : Char) : Nat :=
  if c.isDigit then c.toNat - '0'.toNat
  else if 'a' ≤ c.toLower && c.toLower ≤ 'z' then c.toLower.toNat - 'a'.toNat + 10
  else 36

/-- The value of the digits `cs` in `base`, underscores skipped when `skip` is set. -/
def digitsValue (base : Nat) (skip : Bool) : List Char → Nat → Option Nat
  | [], acc => some acc
  | c :: cs, acc =>
    if skip && c == '_' then digitsValue base skip cs acc
    else
      let d := digitValue c
      if d ≥ base then none else digitsValue base skip cs (acc * base + d)

/-- An unsigned literal with its base taken from its prefix. -/
def readPrefixed (s : List Char) : Option Nat := do
  if s.isEmpty then none
  let (base, digits) := match s with
    | '0' :: b :: rest =>
      if rest.length + 2 ≥ 3 && b.toLower == 'b' then (2, rest)
      else if rest.length + 2 ≥ 3 && b.toLower == 'o' then (8, rest)
      else if rest.length + 2 ≥ 3 && b.toLower == 'x' then (16, rest)
      else (8, b :: rest)
    | '0' :: rest => (8, rest)
    | _ => (10, s)
  let n ← digitsValue base true digits 0
  if s.contains '_' && !underscoresOk s then none
  pure n

/-- Applies a sign to a magnitude, refusing what a signed 64-bit integer cannot hold. -/
def signed (neg : Bool) (n : Nat) : Option Int :=
  if neg then (if n > Nat.pow 2 63 then none else some (-(n : Int)))
  else if n ≥ Nat.pow 2 63 then none else some n

/-- Splits off a leading sign. -/
def sign (cs : List Char) : Bool × List Char :=
  match cs with
  | '-' :: rest => (true, rest)
  | '+' :: rest => (false, rest)
  | _ => (false, cs)

/-- A signed 64-bit integer in the base its prefix gives. -/
def readInt (s : String) : Option Int := do
  let (neg, body) := sign s.toList
  signed neg (← readPrefixed body)

/-- A signed 64-bit decimal integer. -/
def readDecimal (s : String) : Option Int := do
  let (neg, body) := sign s.toList
  if body.isEmpty then none
  signed neg (← digitsValue 10 false body 0)

/-- A flag written as text. -/
def readBool : String → Option Bool
  | "1" | "t" | "T" | "true" | "TRUE" | "True" => some true
  | "0" | "f" | "F" | "false" | "FALSE" | "False" => some false
  | _ => none

end SailSim.Text
