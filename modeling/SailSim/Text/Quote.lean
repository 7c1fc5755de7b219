/-!
# Quoted strings

`quote s` writes `s` between double quotes so that it reads back unambiguously: the quote and
the backslash are escaped, the usual control characters take their one-letter escapes, other
control and format characters and separators other than the space are written `\xHH`,
`\uHHHH` or `\UHHHHHHHH`, and every other character stands for itself.
-/

namespace SailSim.Text

/-- Hexadecimal digits of `n`, lower case, at least `width` of them. -/
def hexDigits (n width : Nat) : String :=
  let ds := Nat.toDigits 16 n
  String.ofList (List.replicate (width - ds.length) '0' ++ ds)

/-- Whether `c` is printed as itself inside a quoted string. -/
def isPrintable (c : Char) : Bool :=
  let n := c.toNat
  if n < 0x20 || n == 0x7F then false
  else if n < 0x7F then true
  else if n < 0xA1 then false
  else !(n == 0xAD || (0x600 ≤ n && n ≤ 0x605) || n == 0x61C || n == 0x6DD || n == 0x70F ||
    n == 0x1680 || n == 0x180E || (0x2000 ≤ n && n ≤ 0x200F) || (0x2028 ≤ n && n ≤ 0x202F) ||
    (0x205F ≤ n && n ≤ 0x206F) || n == 0x3000 || (0xD800 ≤ n && n ≤ 0xF8FF) ||
    n == 0xFEFF || (0xFFF9 ≤ n && n ≤ 0xFFFB) || n == 0xFFFE || n == 0xFFFF ||
    (0xE0000 ≤ n && n ≤ 0xE007F) || 0xF0000 ≤ n)

/-- The escaped text of one character inside a quoted string. -/
def escapeChar (c : Char) : String :=
  match c with
  | '"' => "\\\""
  | '\\' => "\\\\"
  | '\n' => "\\n"
  | '\t' => "\\t"
  | '\r' => "\\r"
  | _ =>
    let n := c.toNat
    if isPrintable c then c.toString
    else if n == 7 then "\\a" else if n == 8 then "\\b" else if n == 12 then "\\f"
    else if n == 11 then "\\v"
    else if n < 0x80 then "\\x" ++ hexDigits n 2
    else if n < 0x10000 then "\\u" ++ hexDigits n 4
    else "\\U" ++ hexDigits n 8

/-- `s` between double quotes with escapes. -/
def quote (s : String) : String :=
  "\"" ++ String.join (s.toList.map escapeChar) ++ "\""

end SailSim.Text
