import SailSim.Json.Value
import SailSim.Text.Quote

/-!
# Reading JSON

`Json.parse` reads one JSON value surrounded by optional blanks (space, tab, newline,
carriage return). The whole text is checked before any value is used, so a syntax error
anywhere wins over every later type error. A syntax error names the first character that
cannot continue the text and what was expected there, or the end of the input:

* `invalid character 'x' looking for beginning of value`,
* `invalid character 'x' after top-level value`, `… after array element`,
  `… after object key`, `… after object key:value pair`,
  `… looking for beginning of object key string`,
* `… in string literal`, `… in string escape code`,
  `… in \u hexadecimal character escape`,
* `… in numeric literal`, `… after decimal point in numeric literal`,
  `… in exponent of numeric literal`, `… in literal true (expecting 'r')`,
* `unexpected end of JSON input`.

Numbers keep their literal text; string escapes are decoded, a lone surrogate becoming
U+FFFD.
-/

namespace SailSim.Json

/-- Why a text is not JSON. -/
inductive SyntaxError where
  | unexpectedEnd
  | invalidChar (c : Char) (context : String)
  deriving Repr, BEq

/-- The first byte of the UTF-8 encoding of `c`. -/
def leadByte (c : Char) : Nat :=
  let n := c.toNat
  if n < 0x80 then n
  else if n < 0x800 then 0xC0 + n / 64
  else if n < 0x10000 then 0xE0 + n / 4096
  else 0xF0 + n / 262144

/-- A character as syntax errors show it: its first byte between apostrophes, escaped
like a quoted string when it is not printable ASCII. -/
def showChar (c : Char) : String :=
  if c == '\'' then "'\\''"
  else if c == '"' then "'\"'"
  else
    let b := leadByte c
    let body :=
      if b == 7 then "\\a" else if b == 8 then "\\b" else if b == 12 then "\\f"
      else if b == 10 then "\\n" else if b == 13 then "\\r" else if b == 9 then "\\t"
      else if b == 11 then "\\v" else if b == 92 then "\\\\"
      else if b < 0x20 || b ≥ 0x7F then "\\x" ++ Text.hexDigits b 2
      else c.toString
    "'" ++ body ++ "'"

/-- The message of a syntax error. -/
def SyntaxError.message : SyntaxError → String
  | .unexpectedEnd => "unexpected end of JSON input"
  | .invalidChar c ctx => "invalid character " ++ showChar c ++ " " ++ ctx

/-- Whether `c` separates JSON tokens. -/
def isSpace (c : Char) : Bool := c == ' ' || c == '\t' || c == '\n' || c == '\r'

/-- The input after leading blanks. -/
def skipSpace (cs : List Char) : List Char := cs.dropWhile isSpace

/-- The value of a hexadecimal digit. -/
def hexValue (c : Char) : Option Nat :=
  if '0' ≤ c && c ≤ '9' then some (c.toNat - '0'.toNat)
  else if 'a' ≤ c && c ≤ 'f' then some (c.toNat - 'a'.toNat + 10)
  else if 'A' ≤ c && c ≤ 'F' then some (c.toNat - 'A'.toNat + 10)
  else none

/-- Reads the four hexadecimal digits of a `\u` escape. -/
def readHex4 (cs : List Char) : Except SyntaxError (Nat × List Char) :=
  go 4 0 cs
where
  go : Nat → Nat → List Char → Except SyntaxError (Nat × List Char)
    | 0, acc, rest => .ok (acc, rest)
    | _ + 1, _, [] => .error .unexpectedEnd
    | n + 1, acc, c :: rest =>
      match hexValue c with
      | some v => go n (acc * 16 + v) rest
      | none => .error (.invalidChar c "in \\u hexadecimal character escape")

/-- Reads the rest of a string literal after its opening quote: the characters so far,
reversed, and the input. Surrogate pairs are joined after reading. -/
def readString (acc : List Nat) : List Char → Except SyntaxError (List Nat × List Char)
  | [] => .error .unexpectedEnd
  | '"' :: rest => .ok (acc.reverse, rest)
  | '\\' :: rest =>
    match rest with
    | [] => .error .unexpectedEnd
    | e :: rest =>
      match e with
      | '"' => readString (34 :: acc) rest
      | '\\' => readString (92 :: acc) rest
      | '/' => readString (47 :: acc) rest
      | 'b' => readString (8 :: acc) rest
      | 'f' => readString (12 :: acc) rest
      | 'n' => readString (10 :: acc) rest
      | 'r' => readString (13 :: acc) rest
      | 't' => readString (9 :: acc) rest
      | 'u' =>
        match readHex4 rest with
        | .ok (v, rest') =>
          if rest'.length < rest.length then readString (v :: acc) rest'
          else .error .unexpectedEnd
        | .error err => .error err
      | c => .error (.invalidChar c "in string escape code")
  | c :: rest =>
    if c.toNat < 0x20 then .error (.invalidChar c "in string literal")
    else readString (c.toNat :: acc) rest
termination_by cs => cs.length

/-- Code points with surrogate pairs joined and lone surrogates replaced by U+FFFD. -/
def joinSurrogates : List Nat → List Char
  | [] => []
  | hi :: lo :: rest =>
    if 0xD800 ≤ hi && hi < 0xDC00 && 0xDC00 ≤ lo && lo < 0xE000 then
      Char.ofNat (0x10000 + (hi - 0xD800) * 1024 + (lo - 0xDC00)) :: joinSurrogates rest
    else if 0xD800 ≤ hi && hi < 0xE000 then Char.ofNat 0xFFFD :: joinSurrogates (lo :: rest)
    else Char.ofNat hi :: joinSurrogates (lo :: rest)
  | [c] => if 0xD800 ≤ c && c < 0xE000 then [Char.ofNat 0xFFFD] else [Char.ofNat c]

/-- Digits at the front of the input. -/
def digits (cs : List Char) : List Char × List Char := (cs.takeWhile Char.isDigit, cs.dropWhile Char.isDigit)

/-- The optional minus sign of a number literal. -/
def readSign : List Char → List Char × List Char
  | '-' :: rest => (['-'], rest)
  | cs => ([], cs)

/-- The whole part of a number literal: `0`, or digits starting with another digit. -/
def readWhole : List Char → Except SyntaxError (List Char × List Char)
  | [] => .error .unexpectedEnd
  | '0' :: rest => pure (['0'], rest)
  | c :: rest =>
    if c.isDigit then pure (digits (c :: rest)) else .error (.invalidChar c "in numeric literal")

/-- The optional fraction of a number literal: a point and one or more digits. -/
def readFraction : List Char → Except SyntaxError (List Char × List Char)
  | '.' :: rest =>
    match rest with
    | [] => .error .unexpectedEnd
    | c :: _ =>
      if c.isDigit then
        let (ds, rest') := digits rest
        pure ('.' :: ds, rest')
      else .error (.invalidChar c "after decimal point in numeric literal")
  | cs => pure ([], cs)

/-- The optional exponent of a number literal: `e` or `E`, an optional sign and one or more
digits. -/
def readExponent : List Char → Except SyntaxError (List Char × List Char)
  | e :: rest =>
    if e == 'e' || e == 'E' then
      let (sgn, rest) := match rest with
        | '+' :: r => (['+'], r)
        | '-' :: r => (['-'], r)
        | _ => ([], rest)
      match rest with
      | [] => .error .unexpectedEnd
      | c :: _ =>
        if c.isDigit then
          let (ds, rest') := digits rest
          pure (e :: sgn ++ ds, rest')
        else .error (.invalidChar c "in exponent of numeric literal")
    else pure ([], e :: rest)
  | [] => pure ([], [])

/-- Reads a number literal; returns its text and the input after it. -/
def readNumber (cs : List Char) : Except SyntaxError (String × List Char) := do
  let (sign, cs) := readSign cs
  let (intPart, cs) ← readWhole cs
  let (frac, cs) ← readFraction cs
  let (expo, cs) ← readExponent cs
  pure (String.ofList (sign ++ intPart ++ frac ++ expo), cs)

/-- Reads the letters of `true`, `false` or `null` after their first letter. -/
def readWord (word : String) (expected : List Char) (cs : List Char) :
    Except SyntaxError (List Char) :=
  match expected, cs with
  | [], rest => .ok rest
  | _ :: _, [] => .error .unexpectedEnd
  | e :: es, c :: rest =>
    if c == e then readWord word es rest
    else .error (.invalidChar c ("in literal " ++ word ++ " (expecting " ++ showChar e ++ ")"))

mutual
/-- Reads one value after optional blanks, with `fuel` bounding the nesting. An array or
object after its opening bracket is empty or read item by item. -/
def readValue (fuel : Nat) (cs : List Char) : Except SyntaxError (Json × List Char) :=
  match fuel with
  | 0 => .error .unexpectedEnd
  | fuel + 1 =>
    match skipSpace cs with
    | [] => .error .unexpectedEnd
    | '{' :: rest =>
      match skipSpace rest with
      | '}' :: rest => .ok (.object [], rest)
      | _ => readMembers fuel [] rest
    | '[' :: rest =>
      match skipSpace rest with
      | ']' :: rest => .ok (.array [], rest)
      | _ => readItems fuel [] rest
    | '"' :: rest => do
      let (s, rest) ← readString [] rest
      pure (.string (String.ofList (joinSurrogates s)), rest)
    | 't' :: rest => do pure (.bool true, ← readWord "true" ['r', 'u', 'e'] rest)
    | 'f' :: rest => do pure (.bool false, ← readWord "false" ['a', 'l', 's', 'e'] rest)
    | 'n' :: rest => do pure (.null, ← readWord "null" ['u', 'l', 'l'] rest)
    | c :: rest =>
      if c == '-' || c.isDigit then do
        let (lit, rest) ← readNumber (c :: rest)
        pure (.number lit, rest)
      else .error (.invalidChar c "looking for beginning of value")

/-- Reads items and separators until `]`, `acc` holding the items read, reversed. -/
def readItems (fuel : Nat) (acc : List Json) (cs : List Char) :
    Except SyntaxError (Json × List Char) :=
  match fuel with
  | 0 => .error .unexpectedEnd
  | fuel + 1 => do
    let (v, rest) ← readValue fuel cs
    match skipSpace rest with
    | [] => .error .unexpectedEnd
    | ',' :: rest => readItems fuel (v :: acc) rest
    | ']' :: rest => pure (.array (v :: acc).reverse, rest)
    | c :: _ => .error (.invalidChar c "after array element")

/-- Reads members and separators until `}`, `acc` holding the members read, reversed. -/
def readMembers (fuel : Nat) (acc : List (String × Json)) (cs : List Char) :
    Except SyntaxError (Json × List Char) :=
  match fuel with
  | 0 => .error .unexpectedEnd
  | fuel + 1 =>
    match skipSpace cs with
    | [] => .error .unexpectedEnd
    | '"' :: rest => do
      let (k, rest) ← readString [] rest
      let key := String.ofList (joinSurrogates k)
      match skipSpace rest with
      | [] => .error .unexpectedEnd
      | ':' :: rest => do
        let (v, rest) ← readValue fuel rest
        match skipSpace rest with
        | [] => .error .unexpectedEnd
        | ',' :: rest => readMembers fuel ((key, v) :: acc) rest
        | '}' :: rest => pure (.object ((key, v) :: acc).reverse, rest)
        | c :: _ => .error (.invalidChar c "after object key:value pair")
      | c :: _ => .error (.invalidChar c "after object key")
    | c :: _ => .error (.invalidChar c "looking for beginning of object key string")
end

/-- Reads a text holding exactly one JSON value. -/
def parse (s : String) : Except SyntaxError Json := do
  let cs := s.toList
  let (v, rest) ← readValue (2 * cs.length + 2) cs
  match skipSpace rest with
  | [] => pure v
  | c :: _ => .error (.invalidChar c "after top-level value")

/-- Reads the first value of a stream of JSON values, leaving what follows it unread: a stream
of blanks only ends with `EOF`, a value cut short with `unexpected EOF`. -/
def parseFirst (s : String) : Except String Json :=
  let cs := s.toList
  if (skipSpace cs).isEmpty then .error "EOF" else
  match readValue (2 * cs.length + 2) cs with
  | .ok (v, _) => .ok v
  | .error .unexpectedEnd => .error "unexpected EOF"
  | .error e => .error e.message

end SailSim.Json
