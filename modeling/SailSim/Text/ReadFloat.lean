import SailSim.Binary64.Round

/-!
# Reading floats

`readFloat` accepts the decimal and hexadecimal floating-point literals of the program's
number syntax: an optional sign; digits with an optional point and an optional exponent
(`e` for decimal, `p`, which is then required, for hexadecimal after `0x`); underscores
between digits, or between the `0x` and a digit; and, ignoring case, `inf`, `infinity` with
an optional sign, and `nan`. A decimal literal is rounded to the nearest binary64 value.
A literal whose value rounds beyond the largest finite float is out of range.
-/

namespace SailSim.Text

/-- Why a text is not a float. -/
inductive FloatReadError where
  | invalid
  | range
  deriving Repr, BEq

/-- One character of the underscore check. The state is the class of the last character:
`'0'` for a digit (or a base prefix), `'_'` for an underscore, `'!'` for anything else and
`'^'` at the start; `none` once an underscore stood out of place. -/
def underscoreStep (hex : Bool) : Option Char → Char → Option Char
  | none, _ => none
  | some saw, c =>
    if c.isDigit || (hex && 'a' ≤ c.toLower && c.toLower ≤ 'f') then some '0'
    else if c == '_' then (if saw == '0' then some '_' else none)
    else if saw == '_' then none
    else some '!'

/-- The text after a leading sign. -/
def dropSign (s : List Char) : List Char :=
  match s with
  | c :: rest => if c == '-' || c == '+' then rest else s
  | [] => []

/-- A base prefix `0b`, `0o` or `0x` (any case): whether it is hexadecimal, the state of the
underscore check after it, and the text after it. -/
def basePrefix (s : List Char) : Bool × Char × List Char :=
  match s with
  | '0' :: b :: rest =>
    let lb := b.toLower
    if lb == 'b' || lb == 'o' || lb == 'x' then (lb == 'x', '0', rest) else (false, '^', s)
  | _ => (false, '^', s)

/-- Whether the underscores of a literal stand only between digits, or between a base
prefix and a digit. -/
def underscoresOk (s : List Char) : Bool :=
  let (hex, saw, s) := basePrefix (dropSign s)
  match s.foldl (underscoreStep hex) (some saw) with
  | some last => last != '_'
  | none => false

/-- The digits of a mantissa: their value, how many there were, how many stood before the
point, and the input after them. Underscores are skipped. -/
def scanMantissa (base : Nat) : List Char → Nat → Nat → Option Nat → Bool →
    Nat × Nat × Option Nat × Bool × List Char
  | [], m, nd, dp, saw => (m, nd, dp, saw, [])
  | c :: rest, m, nd, dp, saw =>
    if c == '_' then scanMantissa base rest m nd dp saw
    else if c == '.' then
      match dp with
      | some _ => (m, nd, dp, saw, c :: rest)
      | none => scanMantissa base rest m nd (some nd) saw
    else
      let v : Option Nat :=
        if c.isDigit then some (c.toNat - '0'.toNat)
        else if base == 16 && 'a' ≤ c.toLower && c.toLower ≤ 'f' then
          some (c.toLower.toNat - 'a'.toNat + 10)
        else none
      match v with
      | some d => scanMantissa base rest (m * base + d) (nd + 1) dp true
      | none => (m, nd, dp, saw, c :: rest)

/-- Exponent digits (underscores skipped), capped at 10000, and the rest. -/
def scanExponent : List Char → Nat → Nat × List Char
  | [], e => (e, [])
  | c :: rest, e =>
    if c == '_' then scanExponent rest e
    else if c.isDigit then
      scanExponent rest (if e < 10000 then e * 10 + (c.toNat - '0'.toNat) else e)
    else (e, c :: rest)

/-- The exponent after a mantissa and the input after it: `e` (`p` after a hexadecimal
mantissa), an optional sign and digits. A decimal mantissa may go without one, a hexadecimal
one may not, and a malformed exponent is `none`. -/
def readExponent (hex : Bool) (rest : List Char) : Option (Int × List Char) :=
  let expChar := if hex then 'p' else 'e'
  match rest with
  | c :: r =>
    if c.toLower == expChar then
      let (sign, r) := match r with
        | '+' :: r' => (1, r')
        | '-' :: r' => (-1, r')
        | _ => (1, r)
      match r with
      | d :: _ =>
        if d.isDigit then
          let (e, r') := scanExponent r 0
          some ((sign : Int) * e, r')
        else none
      | [] => none
    else if hex then none else some (0, rest)
  | [] => if hex then none else some (0, [])

/-- Whether `s` starts with `w`, ignoring ASCII case; `w` is lower case. -/
def startsWithFold (s w : List Char) : Bool :=
  w.length ≤ s.length && (s.take w.length).map Char.toLower == w

/-- The special spellings: infinities with an optional sign and NaN. -/
def readSpecial (cs : List Char) : Option Float :=
  let (neg, body, signed) := match cs with
    | '-' :: rest => (true, rest, true)
    | '+' :: rest => (false, rest, true)
    | _ => (false, cs, false)
  let lower := body.map Char.toLower
  if lower == "infinity".toList || lower == "inf".toList then
    some (if neg then -1.0 / 0.0 else 1.0 / 0.0)
  else if !signed && lower == "nan".toList then some (0.0 / 0.0)
  else none

/-- A leading sign: whether it is a minus, and the text after it. -/
def splitSign (cs : List Char) : Bool × List Char :=
  match cs with
  | '-' :: rest => (true, rest)
  | '+' :: rest => (false, rest)
  | _ => (false, cs)

/-- A hexadecimal prefix `0x` or `0X`: whether there is one, and the text after it. -/
def splitHexPrefix (body : List Char) : Bool × List Char :=
  match body with
  | '0' :: x :: rest => if x == 'x' || x == 'X' then (true, rest) else (false, body)
  | _ => (false, body)

/-- The value of the decimal `m · 10^d` read from `nd` digits: zero without a nonzero digit,
infinity far above the largest float and zero far below the least, else the decimal rounded to
the nearest binary64 value. -/
def decimalValue (m nd : Nat) (d : Int) : Float :=
  if m = 0 then 0
  else if d > 400 then 1.0 / 0.0
  else if d < -(400 + (nd : Int)) then 0
  else if d ≥ 0 then Float.ofScientific m false d.toNat
  else Float.ofScientific m true (-d).toNat

/-- Reads a whole text as a float. -/
def readFloat (s : String) : Except FloatReadError Float :=
  let cs := s.toList
  match readSpecial cs with
  | some f => .ok f
  | none =>
    let (neg, body) := splitSign cs
    let (hex, digitsPart) := splitHexPrefix body
    let base := if hex then 16 else 10
    let (m, nd, dp, saw, rest) := scanMantissa base digitsPart 0 0 none false
    let dp := dp.getD nd
    if !saw then .error .invalid
    else
      match readExponent hex rest with
      | none => .error .invalid
      | some (e, tail) =>
        let consumed := cs.take (cs.length - tail.length)
        if !tail.isEmpty then .error .invalid
        else if !underscoresOk consumed then .error .invalid
        else
          let v : Float :=
            if hex then Binary64.roundBinary m (4 * ((dp : Int) - nd) + e)
            else decimalValue m nd ((dp : Int) - nd + e)
          if v.isInf then .error .range
          else .ok (if neg then -v else v)

end SailSim.Text
