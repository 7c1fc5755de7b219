import SailSim.Net.Url

/-!
# URL queries

A query is `key=value` pairs joined by `&`, each part percent-encoded with `+` for a space.
Reading one skips a pair holding a semicolon, an empty pair, and a pair whose key or value is
not correctly encoded; a key may come several times. Writing one lists the keys sorted, each
with its values in the order they came, escaping every byte but letters, digits and `-_.~`.
-/

namespace SailSim.Net

/-- A query: each key with its values, in the order the keys came. -/
abbrev Query := List (String × List String)

namespace Query

/-- Percent-decodes a query part, with `+` standing for a space; none when an escape is
malformed. -/
def unescapeBytes : List Char → Option (List UInt8)
  | [] => some []
  | '%' :: a :: b :: rest => do
    let x ← Url.hexValue a
    let y ← Url.hexValue b
    pure (UInt8.ofNat (16 * x + y) :: (← unescapeBytes rest))
  | '%' :: _ => none
  | '+' :: rest => do pure (32 :: (← unescapeBytes rest))
  | c :: rest => do pure ((String.singleton c).toUTF8.toList ++ (← unescapeBytes rest))

/-- The decoded text of a query part. -/
def unescape (s : String) : Option String := do
  let bytes ← unescapeBytes s.toList
  pure (String.fromUTF8? (ByteArray.mk bytes.toArray) |>.getD s)

/-- Whether a byte stands unescaped in a query part. -/
def unreserved (b : UInt8) : Bool :=
  let c := Char.ofNat b.toNat
  c.isAlphanum || c == '-' || c == '_' || c == '.' || c == '~'

/-- The upper-case hexadecimal digit of a value below sixteen. -/
def hexDigit (n : Nat) : Char := "0123456789ABCDEF".toList.getD n '0'

/-- A text escaped as a query part. -/
def escape (s : String) : String :=
  String.ofList (s.toUTF8.toList.flatMap fun b =>
    if unreserved b then [Char.ofNat b.toNat]
    else if b == 32 then ['+']
    else ['%', hexDigit (b.toNat / 16), hexDigit (b.toNat % 16)])

/-- The query with `value` added under `key`. -/
def add (q : Query) (key value : String) : Query :=
  match q.lookup key with
  | some vs => q.map fun (k, ws) => (k, if k == key then vs ++ [value] else ws)
  | none => q ++ [(key, [value])]

/-- Reads a query. -/
def parse (raw : String) : Query :=
  (Text.splitAt raw '&').foldl (fun q pair =>
    if pair.isEmpty || pair.toList.contains ';' then q else
    let (k, v) := match Text.splitAt pair '=' with
      | k :: rest => (k, "=".intercalate rest)
      | [] => ("", "")
    match unescape k, unescape v with
    | some k, some v => q.add k v
    | _, _ => q) []

/-- The query with `key` holding `value` alone. -/
def set (q : Query) (key value : String) : Query :=
  if (q.lookup key).isSome then q.map fun (k, vs) => (k, if k == key then [value] else vs)
  else q ++ [(key, [value])]

/-- The first value under `key`, empty when there is none. -/
def get (q : Query) (key : String) : String := ((q.lookup key).bind List.head?).getD ""

/-- Writes a query, its keys sorted. -/
def encode (q : Query) : String :=
  "&".intercalate ((q.mergeSort fun a b => decide (a.1 ≤ b.1)).flatMap fun (k, vs) =>
    vs.map fun v => escape k ++ "=" ++ escape v)

end Query

end SailSim.Net
