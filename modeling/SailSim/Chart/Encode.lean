import SailSim.Chart.Raster
import SailSim.Gzip

/-!
# Image files

A gray canvas written as an image file:

* PNG: 8-bit grayscale, each row unfiltered, the image data a zlib stream of stored deflate
  blocks with its Adler-32 checksum; each chunk carries the CRC-32 of its type and data;
* TIFF: little-endian, one uncompressed strip of 8-bit gray pixels, black being zero;
* JPEG: baseline, one gray component, a quantization table of ones, each 8×8 block coded by its
  average alone (every other coefficient zero), with the standard luminance table for the
  averages' differences and a one-code table holding the end of block.
-/

namespace SailSim.Chart

/-- The four big-endian bytes of a number. -/
def be32 (n : Nat) : List UInt8 :=
  [UInt8.ofNat (n / 16777216 % 256), UInt8.ofNat (n / 65536 % 256), UInt8.ofNat (n / 256 % 256),
    UInt8.ofNat (n % 256)]

/-- The two big-endian bytes of a number. -/
def be16 (n : Nat) : List UInt8 := [UInt8.ofNat (n / 256 % 256), UInt8.ofNat (n % 256)]

/-- The two little-endian bytes of a number. -/
def le16 (n : Nat) : List UInt8 := [UInt8.ofNat (n % 256), UInt8.ofNat (n / 256 % 256)]

/-- The four little-endian bytes of a number. -/
def le32 (n : Nat) : List UInt8 := le16 (n % 65536) ++ le16 (n / 65536)

/-- The Adler-32 checksum of bytes. -/
def adler32 (data : ByteArray) : Nat :=
  let (a, b) := data.foldl (fun (a, b) x => let a := (a + x.toNat) % 65521; (a, (b + a) % 65521)) (1, 0)
  b * 65536 + a

/-- The rows of a canvas, each after its filter byte: none. -/
def Canvas.filteredRows (c : Canvas) : ByteArray := Id.run do
  let mut out := ByteArray.emptyWithCapacity ((c.width + 1) * c.height)
  for y in [0:c.height] do
    out := out.push 0
    out := out ++ c.pixels.extract (y * c.width) ((y + 1) * c.width)
  return out

/-- A PNG chunk. -/
def pngChunk (kind : String) (data : List UInt8) : List UInt8 :=
  let body := kind.toUTF8.toList ++ data
  be32 data.length ++ body ++ be32 (Gzip.crc32 (ByteArray.mk body.toArray)).toNat

/-- The canvas as a PNG file, or why it has none: an image without pixels. -/
def png (c : Canvas) : Except String ByteArray :=
  if c.width == 0 || c.height == 0 then
    .error s!"png: invalid format: invalid image size: {c.width}x{c.height}"
  else .ok <|
  let raw := c.filteredRows
  let zlib := [0x78, 0x01] ++ Gzip.storedBlocks raw.toList ++ be32 (adler32 raw)
  ByteArray.mk (([0x89, 0x50, 0x4E, 0x47, 0x0D, 0x0A, 0x1A, 0x0A] ++
    pngChunk "IHDR" (be32 c.width ++ be32 c.height ++ [8, 0, 0, 0, 0]) ++
    pngChunk "IDAT" zlib ++ pngChunk "IEND" []).toArray)

/-- The canvas as a TIFF file: the header, the directory, then the strip. -/
def tiff (c : Canvas) : ByteArray :=
  let entry (tag kind value : Nat) : List UInt8 :=
    le16 tag ++ le16 kind ++ le32 1 ++ (if kind == 3 then le16 value ++ [0, 0] else le32 value)
  let short := 3
  let long := 4
  let entries := [entry 256 long c.width, entry 257 long c.height, entry 258 short 8,
    entry 259 short 1, entry 262 short 1, entry 273 long (8 + 2 + 8 * 12 + 4),
    entry 278 long c.height, entry 279 long (c.width * c.height)]
  ByteArray.mk (([0x49, 0x49, 0x2A, 0x00] ++ le32 8 ++ le16 entries.length ++ entries.flatten ++
    le32 0).toArray) ++ c.pixels

/-- Bits written most significant first into bytes, a byte `0xFF` followed by a zero. -/
structure BitWriter where
  out : ByteArray := ByteArray.empty
  /-- The bits not yet making a byte, and their count. -/
  acc : Nat := 0
  count : Nat := 0

namespace BitWriter

/-- Emits a whole byte. -/
def emit (w : BitWriter) (b : Nat) : BitWriter :=
  let out := w.out.push (UInt8.ofNat b)
  { w with out := if b == 255 then out.push 0 else out }

/-- Writes the low `n` bits of `bits`. -/
def write (w : BitWriter) (bits n : Nat) : BitWriter :=
  let acc := w.acc * Nat.pow 2 n + bits % Nat.pow 2 n
  let count := w.count + n
  let whole := count / 8
  let w := (List.range whole).foldl (fun w i =>
    w.emit (acc / Nat.pow 2 (count - 8 * (i + 1)) % 256)) w
  { w with acc := acc % Nat.pow 2 (count % 8), count := count % 8 }

/-- The bytes, the last one padded with ones. -/
def finish (w : BitWriter) : ByteArray :=
  if w.count == 0 then w.out
  else
    let pad := 8 - w.count
    (w.write (Nat.pow 2 pad - 1) pad).out

end BitWriter

/-- The code lengths of the standard luminance table for the sizes of average differences:
how many codes there are of each length from one to sixteen bits. -/
def dcLengths : List Nat := [0, 1, 5, 1, 1, 1, 1, 1, 1, 0, 0, 0, 0, 0, 0, 0]

/-- The code and its length of a difference size in the standard luminance table. -/
def dcCode (size : Nat) : Nat × Nat :=
  match size with
  | 0 => (0, 2)
  | 1 => (2, 3) | 2 => (3, 3) | 3 => (4, 3) | 4 => (5, 3) | 5 => (6, 3)
  | 6 => (14, 4) | 7 => (30, 5) | 8 => (62, 6) | 9 => (126, 7) | 10 => (254, 8)
  | _ => (510, 9)

/-- The number of bits of a magnitude. -/
def bitSize (n : Nat) : Nat := if n == 0 then 0 else Nat.log2 n + 1

/-- Writes the difference of two block averages, then the end of the block. -/
def BitWriter.block (w : BitWriter) (diff : Int) : BitWriter :=
  let size := bitSize diff.natAbs
  let (code, len) := dcCode size
  let bits := if diff < 0 then (diff + Int.pow 2 size - 1).toNat else diff.toNat
  (w.write code len |>.write bits size).write 0 1

/-- The average coefficient of the 8×8 block at block column `bx` and row `by`, edge pixels
repeated past the canvas. -/
def Canvas.blockAverage (c : Canvas) (bx by_ : Nat) : Int :=
  let sum := (List.range 64).foldl (fun s i =>
    let x := min (bx * 8 + i % 8) (c.width - 1)
    let y := min (by_ * 8 + i / 8) (c.height - 1)
    s + ((c.pixels.get! (y * c.width + x)).toNat : Int) - 128) (0 : Int)
  (2 * sum + (if sum < 0 then -8 else 8)) / 16

/-- A JPEG marker segment. -/
def jpegSegment (marker : UInt8) (data : List UInt8) : List UInt8 :=
  [0xFF, marker] ++ be16 (data.length + 2) ++ data

/-- The canvas as a baseline JPEG file. -/
def jpeg (c : Canvas) : ByteArray :=
  let cols := (c.width + 7) / 8
  let rows := (c.height + 7) / 8
  let blocks := (List.range rows).flatMap fun by_ => (List.range cols).map fun bx => c.blockAverage bx by_
  let (w, _) := blocks.foldl (fun (w, prev) dc => (w.block (dc - prev), dc)) (({} : BitWriter), (0 : Int))
  let dht := [0x00] ++ dcLengths.map UInt8.ofNat ++ (List.range 12).map UInt8.ofNat ++
    [0x10, 1] ++ List.replicate 15 0 ++ [0x00]
  ByteArray.mk (([0xFF, 0xD8] ++
    jpegSegment 0xDB (0 :: List.replicate 64 1) ++
    jpegSegment 0xC0 ([8] ++ be16 c.height ++ be16 c.width ++ [1, 1, 0x11, 0]) ++
    jpegSegment 0xC4 dht ++
    jpegSegment 0xDA [1, 1, 0x00, 0, 63, 0]).toArray) ++ w.finish ++ ByteArray.mk #[0xFF, 0xD9]

end SailSim.Chart
