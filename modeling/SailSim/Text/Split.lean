/-!
# Splitting text at a character

`Text.splitAt s c` is the list of the pieces of `s` between the occurrences of the character
`c`, as `String.splitOn` gives them for a one-character separator: `"a//b"` split at `/` is
`["a", "", "b"]`, and the empty text is `[""]`. It recurs over the characters of the text, so
that a proof can evaluate it.
-/

namespace SailSim.Text

/-- The pieces of `cs` between the occurrences of `c`, `piece` holding the characters of the
piece being read, reversed. -/
def splitChars (c : Char) : List Char → List Char → List String
  | [], piece => [String.ofList piece.reverse]
  | x :: xs, piece =>
    if x == c then String.ofList piece.reverse :: splitChars c xs []
    else splitChars c xs (x :: piece)

/-- The pieces of `s` between the occurrences of `c`. -/
def splitAt (s : String) (c : Char) : List String := splitChars c s.toList []

end SailSim.Text
