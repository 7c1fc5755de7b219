/-!
# Gzip members

A gzip member is a ten-byte header, a deflate stream, the CRC-32 of the data and its length
modulo 2³². `Gzip.compress` writes the data as stored deflate blocks of at most 65535 bytes,
the last one marked final, after a header with no name, no time and an unknown system.
`Gzip.decompress` reads such members one after another, and refuses a wrong magic number with
`gzip: invalid header`, a wrong checksum or length with `gzip: invalid checksum`, data that
ends early with `unexpected EOF`, and deflate blocks that are not stored with
`flate: corrupt input`.
-/

namespace SailSim.Gzip

/-- One step of the reflected CRC-32 polynomial `0xEDB88320` over a bit. -/
def crcStep (c : UInt32) : UInt32 := if c &&& 1 == 1 then (0xEDB88320 : UInt32) ^^^ (c >>> 1) else c >>> 1

/-- The CRC-32 table entry of a byte value. -/
def crcEntry (n : Nat) : UInt32 := Nat.repeat crcStep 8 (UInt32.ofNat n)

/-- The CRC-32 table. -/
def crcTable : Array UInt32 := (Array.range 256).map crcEntry

/-- The CRC-32 (IEEE) of bytes. -/
def crc32 (data : ByteArray) : UInt32 :=
  let c := data.foldl (fun c b => (crcTable.getD ((c ^^^ b.toUInt32) &&& 0xFF).toNat 0) ^^^ (c >>> 8))
    0xFFFFFFFF
  c ^^^ 0xFFFFFFFF

/-- The four little-endian bytes of a word. -/
def le32 (x : UInt32) : List UInt8 :=
  [x.toUInt8, (x >>> 8).toUInt8, (x >>> 16).toUInt8, (x >>> 24).toUInt8]

/-- The largest stored block. -/
def blockLimit : Nat := 65535

/-- The five bytes that open a stored block of `n` bytes: whether it is the last one, then the
length and its complement, little-endian. -/
def storedHeader (final : Bool) (n : Nat) : List UInt8 :=
  [if final then 1 else 0, UInt8.ofNat (n % 256), UInt8.ofNat (n / 256),
    UInt8.ofNat (255 - n % 256), UInt8.ofNat (255 - n / 256)]

/-- Stored deflate blocks holding `data`, the last one final. -/
def storedBlocks (data : List UInt8) : List UInt8 :=
  let rec go (fuel : Nat) (rest : List UInt8) : List UInt8 :=
    let chunk := rest.take blockLimit
    let more := rest.drop blockLimit
    let final := more.isEmpty || fuel == 0
    let header := storedHeader final chunk.length
    match fuel, final with
    | _, true => header ++ chunk
    | 0, false => header ++ chunk
    | fuel + 1, false => header ++ chunk ++ go fuel more
  go (data.length / blockLimit + 1) data

/-- The header of a member: magic number, deflate, no flags, no time, unknown system. -/
def header : List UInt8 := [0x1f, 0x8b, 8, 0, 0, 0, 0, 0, 0, 255]

/-- One gzip member holding `data`. -/
def compress (data : ByteArray) : ByteArray :=
  ByteArray.mk (header ++ storedBlocks data.toList ++ le32 (crc32 data) ++
    le32 (UInt32.ofNat data.size)).toArray

/-- Why a gzip stream cannot be read. -/
inductive Error where
  | header
  | checksum
  | truncated
  | empty
  | corrupt (offset : Nat)
  deriving Repr, BEq

/-- The reader's message. -/
def Error.message : Error → String
  | .header => "gzip: invalid header"
  | .checksum => "gzip: invalid checksum"
  | .truncated => "unexpected EOF"
  | .empty => "EOF"
  | .corrupt n => s!"flate: corrupt input before offset {n}"

/-- A little-endian word from four bytes. -/
def word32 (bs : List UInt8) : UInt32 :=
  bs.foldr (fun b acc => (acc <<< 8) ||| b.toUInt32) 0

/-- Skips a zero-terminated field. -/
def skipZero (bs : List UInt8) : Except Error (List UInt8) :=
  match bs.dropWhile (· != 0) with
  | [] => .error .truncated
  | _ :: rest => .ok rest

/-- The bytes after a member's header. -/
def afterHeader (bs : List UInt8) : Except Error (List UInt8) := do
  if bs.length < 10 then .error .truncated
  match bs with
  | 0x1f :: 0x8b :: 8 :: flags :: rest => do
    let rest := rest.drop 6
    let rest ← if flags &&& 4 != 0 then
        match rest with
        | a :: b :: more =>
          let n := a.toNat + 256 * b.toNat
          if more.length < n then .error .truncated else pure (more.drop n)
        | _ => .error .truncated
      else pure rest
    let rest ← if flags &&& 8 != 0 then skipZero rest else pure rest
    let rest ← if flags &&& 16 != 0 then skipZero rest else pure rest
    if flags &&& 2 != 0 then
      if rest.length < 2 then .error .truncated else pure (rest.drop 2)
    else pure rest
  | _ => .error .header

/-- The data of stored deflate blocks and the bytes after them; `read` counts the bytes already
consumed, for error offsets. -/
def inflateStored (fuel : Nat) (read : Nat) (acc : Array UInt8) (bs : List UInt8) :
    Except Error (Array UInt8 × List UInt8) :=
  match fuel, bs with
  | 0, _ => .error (.corrupt read)
  | _, [] => .error .truncated
  | fuel + 1, h :: rest =>
    if h &&& 6 != 0 then .error (.corrupt read) else
    match rest with
    | l0 :: l1 :: n0 :: n1 :: more =>
      let n := l0.toNat + 256 * l1.toNat
      if n0.toNat + 256 * n1.toNat != 65535 - n then .error (.corrupt (read + 1)) else
      if more.length < n then .error .truncated else
      let acc := acc ++ (more.take n).toArray
      if h &&& 1 == 1 then .ok (acc, more.drop n)
      else inflateStored fuel (read + 5 + n) acc (more.drop n)
    | _ => .error .truncated

/-- The data of every member, one after another. -/
def decompress (data : ByteArray) : Except Error ByteArray :=
  let rec members (fuel : Nat) (first : Bool) (acc : Array UInt8) (bs : List UInt8) :
      Except Error (Array UInt8) :=
    match fuel with
    | 0 => .ok acc
    | fuel + 1 =>
      if bs.isEmpty then (if first then .error .empty else .ok acc) else do
      let body ← afterHeader bs
      let (out, rest) ← inflateStored (body.length + 1) 0 #[] body
      if rest.length < 8 then .error .truncated
      let crc := word32 (rest.take 4)
      let size := word32 ((rest.drop 4).take 4)
      if crc != crc32 (ByteArray.mk out) || size != UInt32.ofNat out.size then .error .checksum
      members fuel false (acc ++ out) (rest.drop 8)
  (fun a => ByteArray.mk a) <$> members (data.size + 1) true #[] data.toList

end SailSim.Gzip
