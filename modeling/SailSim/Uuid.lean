import SailSim.Text.Quote

/-!
# UUIDs

A UUID is sixteen bytes, written canonically as 32 lower-case hexadecimal digits in groups of
8, 4, 4, 4 and 12 separated by hyphens. `Uuid.parse` accepts, by length in bytes:

* 36: the canonical form, in either case;
* 45: the canonical form after the prefix `urn:uuid:`, matched ignoring case;
* 38: the canonical form after any one character, the last character being ignored
  (meant for braces);
* 32: the 32 digits without hyphens.

Any other length is refused with the length; a wrong prefix with the prefix quoted; and
misplaced hyphens or a non-hexadecimal digit as a bad format.
-/

namespace SailSim

/-- Sixteen bytes. -/
structure Uuid where
  bytes : List UInt8
  deriving Repr, BEq

/-- Why a text is not a UUID. -/
inductive UuidError where
  | length (n : Nat)
  | format
  | urnPrefix (prefixBytes : List UInt8)
  deriving Repr, BEq

namespace Uuid

/-- The value of a hexadecimal digit. -/
def hexValue (b : UInt8) : Option Nat :=
  let n := b.toNat
  if 48 ≤ n && n ≤ 57 then some (n - 48)
  else if 97 ≤ n && n ≤ 102 then some (n - 87)
  else if 65 ≤ n && n ≤ 70 then some (n - 55)
  else none

/-- The byte of two hexadecimal digits. -/
def hexByte (a b : UInt8) : Option UInt8 := do
  let x ← hexValue a
  let y ← hexValue b
  pure (UInt8.ofNat (x * 16 + y))

/-- Sixteen bytes from 32 digits. -/
def ofDigits : List UInt8 → Option (List UInt8)
  | a :: b :: rest => do
    let x ← hexByte a b
    let xs ← ofDigits rest
    pure (x :: xs)
  | [] => some []
  | [_] => none

/-- The positions of the hyphens in the canonical form. -/
def hyphens : List Nat := [8, 13, 18, 23]

/-- The bytes of the canonical form `xxxxxxxx-xxxx-xxxx-xxxx-xxxxxxxxxxxx`. -/
def ofCanonical (bs : List UInt8) : Except UuidError Uuid :=
  if hyphens.any (fun i => bs.getD i 0 != 45) then .error .format
  else
    let digits := (bs.take 36).zipIdx.filterMap fun (b, i) => if hyphens.contains i then none else some b
    match ofDigits digits with
    | some xs => .ok ⟨xs⟩
    | none => .error .format

/-- Whether two byte strings are equal ignoring ASCII case. -/
def equalFold (a b : List UInt8) : Bool :=
  let lower (x : UInt8) : UInt8 := if 65 ≤ x && x ≤ 90 then x + 32 else x
  a.map lower == b.map lower

/-- The UUID a text denotes. -/
def parse (s : String) : Except UuidError Uuid :=
  let bs := s.toUTF8.toList
  match bs.length with
  | 36 => ofCanonical bs
  | 45 =>
    if equalFold (bs.take 9) "urn:uuid:".toUTF8.toList then ofCanonical (bs.drop 9)
    else .error (.urnPrefix (bs.take 9))
  | 38 => ofCanonical (bs.drop 1)
  | 32 => match ofDigits bs with
    | some xs => .ok ⟨xs⟩
    | none => .error .format
  | n => .error (.length n)

/-- Two lower-case hexadecimal digits of a byte. -/
def byteHex (b : UInt8) : String := Text.hexDigits b.toNat 2

/-- The canonical form. -/
def toString (u : Uuid) : String :=
  let h := u.bytes.map byteHex
  String.join (h.take 4) ++ "-" ++ String.join ((h.drop 4).take 2) ++ "-" ++
    String.join ((h.drop 6).take 2) ++ "-" ++ String.join ((h.drop 8).take 2) ++ "-" ++
    String.join (h.drop 10)

/-- The canonical form of the UUID a text denotes. -/
def canonical? (s : String) : Except UuidError String := toString <$> parse s

end Uuid

/-- Bytes between double quotes: the characters they spell, escaped as in `Text.quote`, and
each byte of an unfinished character as `\xHH`. -/
def quoteBytes (bs : List UInt8) : String :=
  let n := bs.length
  let chars := (String.fromUTF8? ⟨bs.toArray⟩).map (·.toList)
  match chars with
  | some cs => "\"" ++ String.join (cs.map Text.escapeChar) ++ "\""
  | none =>
    -- only a character cut at the end can be unfinished
    let rec split (k : Nat) : Nat :=
      match k with
      | 0 => 0
      | k + 1 => if (String.fromUTF8? ⟨(bs.take (k + 1)).toArray⟩).isSome then k + 1 else split k
    let good := split n
    let cs := ((String.fromUTF8? ⟨(bs.take good).toArray⟩).map (·.toList)).getD []
    "\"" ++ String.join (cs.map Text.escapeChar) ++
      String.join ((bs.drop good).map fun b => "\\x" ++ Uuid.byteHex b) ++ "\""

/-- The message of a UUID error. -/
def UuidError.message : UuidError → String
  | .length n => s!"invalid UUID length: {n}"
  | .format => "invalid UUID format"
  | .urnPrefix bs => "invalid urn prefix: " ++ quoteBytes bs

end SailSim
