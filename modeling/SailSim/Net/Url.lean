import SailSim.Text.Quote
import SailSim.Text.Split

/-!
# URLs

A URL is read as RFC 3986 describes it, with the leniency of common web clients:

* a scheme is letters, then letters, digits, `+`, `-` or `.`, ended by a colon; a text with no
  such prefix has no scheme, and a colon in its first path segment is refused;
* with a scheme, a text not starting with a slash is kept whole, not hierarchical;
* after `//` comes the authority: user information up to the last `@`, then the host, whose
  port after the last colon must be digits; a bracketed host is an IP literal;
* the path and the host are percent-decoded, and a `%` not followed by two hexadecimal digits
  is refused, as is a character in the host that may not appear there;
* the query is what follows the first `?`, the fragment what follows the first `#`.

A control character anywhere is refused. Errors read as their messages do in web clients,
`parse "<url>": <reason>`.
-/

namespace SailSim.Net

/-- A URL. -/
structure Url where
  scheme : String := ""
  /-- The text after the scheme, for a URL that is not hierarchical. -/
  opaquePart : String := ""
  user : Option String := none
  host : String := ""
  /-- The decoded path. -/
  path : String := ""
  /-- The path as written. -/
  rawPath : String := ""
  rawQuery : String := ""
  /-- A `?` with nothing after it. -/
  forceQuery : Bool := false
  fragment : String := ""
  deriving Repr, Inhabited

namespace Url

/-- Whether a byte is a control character. -/
def isControl (c : Char) : Bool := c.toNat < 0x20 || c.toNat == 0x7F

/-- The scheme and the rest of a URL text, or why it has none. -/
def splitScheme (s : String) : Except String (String × String) :=
  go s.toList []
where
  go : List Char → List Char → Except String (String × String)
    | [], _ => .ok ("", s)
    | c :: rest, acc =>
      if c.isAlpha then go rest (c :: acc)
      else if c.isDigit || c == '+' || c == '-' || c == '.' then
        if acc.isEmpty then .ok ("", s) else go rest (c :: acc)
      else if c == ':' then
        if acc.isEmpty then .error "missing protocol scheme"
        else .ok (String.ofList acc.reverse, String.ofList rest)
      else .ok ("", s)

/-- The value of a hexadecimal digit. -/
def hexValue (c : Char) : Option Nat :=
  if c.isDigit then some (c.toNat - '0'.toNat)
  else if 'a' ≤ c && c ≤ 'f' then some (c.toNat - 'a'.toNat + 10)
  else if 'A' ≤ c && c ≤ 'F' then some (c.toNat - 'A'.toNat + 10)
  else none

/-- Whether a character may stand unescaped in a host name. -/
def hostChar (c : Char) : Bool :=
  c.toNat ≥ 0x80 || c.isAlphanum || "-_.~!$&\x27()*+,;=:[]<>\"".toList.contains c

/-- Percent-decodes bytes; `host` also refuses characters a host may not hold. -/
def unescapeBytes (host : Bool) : List Char → Except String (List UInt8)
  | [] => .ok []
  | '%' :: a :: b :: rest =>
    match hexValue a, hexValue b with
    | some x, some y => do pure (UInt8.ofNat (16 * x + y) :: (← unescapeBytes host rest))
    | _, _ => .error ("invalid URL escape " ++ Text.quote (String.ofList ['%', a, b]))
  | '%' :: rest => .error ("invalid URL escape " ++ Text.quote (String.ofList ('%' :: rest.take 2)))
  | c :: rest =>
    if host && !hostChar c then .error ("invalid character " ++ Text.quote c.toString ++ " in host name")
    else do pure ((String.singleton c).toUTF8.toList ++ (← unescapeBytes host rest))

/-- The decoded text of percent-encoded `s`. -/
def unescape (host : Bool) (s : String) : Except String String := do
  let bytes ← unescapeBytes host s.toList
  pure (String.fromUTF8? (ByteArray.mk bytes.toArray) |>.getD s)

/-- Whether `p` is empty or a colon followed by digits. -/
def validPort (p : String) : Bool :=
  match p.toList with
  | [] => true
  | ':' :: ds => ds.all Char.isDigit
  | _ => false

/-- The decoded host of an authority's host part. -/
def parseHost (h : String) : Except String String := do
  if h.startsWith "[" then
    match (h.toList.reverse.findIdx? (· == ']')) with
    | none => throw "missing ']' in host"
    | some j =>
      let i := h.length - 1 - j
      let colonPort := String.ofList (h.toList.drop (i + 1))
      if !validPort colonPort then throw ("invalid port " ++ Text.quote colonPort ++ " after host")
  else
    match h.toList.reverse.findIdx? (· == ':') with
    | some j =>
      let colonPort := String.ofList (h.toList.drop (h.length - 1 - j))
      if !validPort colonPort then throw ("invalid port " ++ Text.quote colonPort ++ " after host")
    | none => pure ()
  unescape true h

/-- The user information and host of an authority. -/
def parseAuthority (a : String) : Except String (Option String × String) := do
  match a.toList.reverse.findIdx? (· == '@') with
  | none => pure (none, ← parseHost a)
  | some j =>
    let i := a.length - 1 - j
    let host ← parseHost (String.ofList (a.toList.drop (i + 1)))
    pure (some (String.ofList (a.toList.take i)), host)

/-- Reads a URL without its fragment. -/
def parseBody (s : String) : Except String Url := do
  if s.toList.any isControl then throw "net/url: invalid control character in URL"
  if s == "*" then return { path := "*", rawPath := "*" }
  let (scheme, rest) ← splitScheme s
  let scheme := scheme.toLower
  let (rest, rawQuery, forceQuery) :=
    if rest.endsWith "?" && (rest.toList.filter (· == '?')).length == 1 then
      ((rest.dropEnd 1).copy, "", true)
    else match Text.splitAt rest '?' with
      | [r] => (r, "", false)
      | r :: qs => (r, "?".intercalate qs, false)
      | [] => (rest, "", false)
  if !rest.startsWith "/" then
    if scheme != "" then return { scheme, opaquePart := rest, rawQuery, forceQuery }
    let segment := (Text.splitAt rest '/').headD ""
    if segment.toList.contains ':' then throw "first path segment in URL cannot contain colon"
  let (user, host, rest) ← if rest.startsWith "//" then do
      let auth := (rest.drop 2).copy
      let (a, p) := match auth.toList.findIdx? (· == '/') with
        | some i => (String.ofList (auth.toList.take i), String.ofList (auth.toList.drop i))
        | none => (auth, "")
      let (user, host) ← parseAuthority a
      pure (user, host, p)
    else pure (none, "", rest)
  let path ← unescape false rest
  pure { scheme, user, host, path, rawPath := rest, rawQuery, forceQuery }

/-- Reads a URL; the error is `parse "<text>": <reason>`. -/
def parse (s : String) : Except String Url :=
  let (body, frag) := match Text.splitAt s '#' with
    | [b] => (b, none)
    | b :: fs => (b, some ("#".intercalate fs))
    | [] => (s, none)
  match parseBody body with
  | .error e => .error ("parse " ++ Text.quote body ++ ": " ++ e)
  | .ok u => match frag with
    | none => .ok u
    | some f => match unescape false f with
      | .ok _ => .ok { u with fragment := f }
      | .error e => .error ("parse " ++ Text.quote s ++ ": " ++ e)

/-- The host without its port. -/
def hostname (u : Url) : String :=
  if u.host.startsWith "[" then
    match u.host.toList.findIdx? (· == ']') with
    | some i => String.ofList ((u.host.toList.take i).drop 1)
    | none => u.host
  else (Text.splitAt u.host ':').headD ""

/-- The port, empty when none is written. -/
def port (u : Url) : String :=
  let h := if u.host.startsWith "[" then
      match u.host.toList.findIdx? (· == ']') with
      | some i => String.ofList (u.host.toList.drop (i + 1))
      | none => ""
    else match u.host.toList.findIdx? (· == ':') with
      | some i => String.ofList (u.host.toList.drop i)
      | none => ""
  (h.drop 1).copy

/-- The URL written back. -/
def render (u : Url) : String :=
  let head := if u.scheme.isEmpty then "" else u.scheme ++ ":"
  let body :=
    if !u.opaquePart.isEmpty then u.opaquePart
    else
      let auth :=
        if u.scheme != "" || u.host != "" || u.user.isSome then
          (if u.host != "" || u.rawPath != "" || u.user.isSome then "//" else "") ++
          (match u.user with | some ui => ui ++ "@" | none => "") ++ u.host
        else ""
      let sep := if u.rawPath != "" && !u.rawPath.startsWith "/" && u.host != "" then "/" else ""
      auth ++ sep ++ u.rawPath
  let query := if u.forceQuery || !u.rawQuery.isEmpty then "?" ++ u.rawQuery else ""
  let frag := if u.fragment.isEmpty then "" else "#" ++ u.fragment
  head ++ body ++ query ++ frag

end Url

end SailSim.Net
