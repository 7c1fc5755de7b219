/-!
# Reading UTF-8 leniently

`Text.decodeLossy` reads bytes as UTF-8 text, replacing every byte that does not start a
well-formed sequence with U+FFFD and going on with the next byte. A well-formed sequence is the
shortest encoding of a code point that is not a surrogate and not above U+10FFFF.
-/

namespace SailSim.Text

/-- Whether a byte continues a sequence, within `lo ..= hi`. -/
def contIn (b : UInt8) (lo hi : UInt8) : Bool := lo ≤ b && b ≤ hi

/-- The code point and length of the well-formed sequence that starts `bs`, if one does. -/
def decodeOne : List UInt8 → Option (Nat × Nat)
  | a :: rest =>
    let c (b : UInt8) : Nat := (b &&& 0x3F).toNat
    if a < 0x80 then some (a.toNat, 1)
    else if 0xC2 ≤ a && a ≤ 0xDF then
      match rest with
      | b :: _ => if contIn b 0x80 0xBF then some ((a &&& 0x1F).toNat * 64 + c b, 2) else none
      | _ => none
    else if 0xE0 ≤ a && a ≤ 0xEF then
      let lo : UInt8 := if a == 0xE0 then 0xA0 else 0x80
      let hi : UInt8 := if a == 0xED then 0x9F else 0xBF
      match rest with
      | b :: d :: _ =>
        if contIn b lo hi && contIn d 0x80 0xBF then
          some ((a &&& 0x0F).toNat * 4096 + c b * 64 + c d, 3)
        else none
      | _ => none
    else if 0xF0 ≤ a && a ≤ 0xF4 then
      let lo : UInt8 := if a == 0xF0 then 0x90 else 0x80
      let hi : UInt8 := if a == 0xF4 then 0x8F else 0xBF
      match rest with
      | b :: d :: e :: _ =>
        if contIn b lo hi && contIn d 0x80 0xBF && contIn e 0x80 0xBF then
          some ((a &&& 0x07).toNat * 262144 + c b * 4096 + c d * 64 + c e, 4)
        else none
      | _ => none
    else none
  | [] => none

/-- The characters of bytes read as UTF-8, each ill-formed byte read as U+FFFD. -/
def decodeChars (fuel : Nat) (bs : List UInt8) : List Char :=
  match fuel, bs with
  | 0, _ => []
  | _, [] => []
  | fuel + 1, b :: rest =>
    match decodeOne (b :: rest) with
    | some (n, len) => Char.ofNat n :: decodeChars fuel ((b :: rest).drop len)
    | none => '�' :: decodeChars fuel rest

/-- Bytes read as UTF-8 text, each ill-formed byte read as U+FFFD. -/
def decodeLossy (data : ByteArray) : String :=
  match String.fromUTF8? data with
  | some s => s
  | none => String.ofList (decodeChars data.size data.toList)

end SailSim.Text
