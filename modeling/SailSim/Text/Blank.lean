/-!
# White space

The characters with the Unicode property White_Space, and trimming them from both ends of a
string. Setting words and coordinate fields are trimmed by this rule before they are read.
-/

namespace SailSim.Text

/-- Whether `c` has the Unicode White_Space property. -/
def isBlank (c : Char) : Bool :=
  let n := c.toNat
  (9 ≤ n && n ≤ 13) || n == 32 || n == 0x85 || n == 0xA0 || n == 0x1680 ||
    (0x2000 ≤ n && n ≤ 0x200A) || n == 0x2028 || n == 0x2029 || n == 0x202F ||
    n == 0x205F || n == 0x3000

/-- `s` without leading and trailing white space. -/
def trimBlank (s : String) : String :=
  String.ofList ((s.toList.dropWhile isBlank).reverse.dropWhile isBlank).reverse

/-- ASCII letters mapped to lower case, every other character kept. -/
def asciiLower (s : String) : String := s.map Char.toLower

theorem isBlank_space : isBlank ' ' = true := rfl

end SailSim.Text
