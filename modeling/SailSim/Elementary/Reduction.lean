import SailSim.Binary64.Basic

/-!
# Reduction of an angle to an octant

The sine, cosine and tangent of `x ≥ 0` are computed from `x = j·(π/4) + z` with `j` taken
modulo 8 and `z` small. Two methods produce `(j, z)`:

* below `2^29` the quotient `j` is the integer part of `x·(4/π)` made even, and `z` is
  `x - j·(π/4)` with `π/4` split into three parts whose products with `j` are exact
  (Cody and Waite's method);
* from `2^29` on, `j` and the fraction of `x·(4/π)` are read off the exact product of the
  significand of `x` with the right 192 bits of the binary expansion of `4/π` (Payne and
  Hanek's method), and the fraction is multiplied by `π/4`.
-/

namespace SailSim.Elementary

open Binary64

/-- The binary expansion of `4/π`: the first word holds the integer part 1 and each later
word the next 64 bits of the fraction. -/
def fourOverPiWords : Array Nat :=
  #[0x0000000000000001, 0x45f306dc9c882a53, 0xf84eafa3ea69bb81, 0xb6c52b3278872083,
    0xfca2c757bd778ac3, 0x6e48dc74849ba5c0, 0x0c925dd413a32439, 0xfc3bd63962534e7d,
    0xd1046bea5d768909, 0xd338e04d68befc82, 0x7323ac7306a673e9, 0x3908bf177bf25076,
    0x3ff12fffbc0b301f, 0xde5e2316b414da3e, 0xda6cfd9e4f96136e, 0x9e8c7ecd3cbfd45a,
    0xea4f758fd7cbe2f6, 0x7a0e73ef14a525d4, 0xd7f6bf623f1aba10, 0xac06608df8f6d757]

/-- `π/4` rounded to binary64. -/
def quarterPi : Float := Float.ofBits 0x3fe921fb54442d18

/-- `4/π` rounded to binary64. -/
def fourOverPi : Float := Float.ofBits 0x3ff45f306dc9c883

/-- The leading part of `π/4`: its low 30 bits are zero, so its product with an integer
below `2^29` is exact. -/
def quarterPiA : Float := Float.ofBits 0x3fe921fb40000000

/-- The middle part of `π/4`, exact in products with small integers like `quarterPiA`. -/
def quarterPiB : Float := Float.ofBits 0x3e64442d00000000

/-- The rest of `π/4` after `quarterPiA` and `quarterPiB`. -/
def quarterPiC : Float := Float.ofBits 0x3ce8469898cc5170

/-- Arguments from this bound on are reduced by `reduceLarge`. -/
def reduceThreshold : Float := 536870912.0

/-- The word `i` of `fourOverPiWords` shifted left by `s` bits and completed from the next
word, as the window of 64 bits starting `s` bits into word `i`. -/
def window (i s : Nat) : Nat :=
  let w := fourOverPiWords.getD i 0
  let next := fourOverPiWords.getD (i + 1) 0
  ((w <<< s) % Nat.pow 2 64) ||| (if s = 0 then 0 else next >>> (64 - s))

/-- Octant and remainder of a large `x` (at least `π/4`) by the exact product with `4/π`. -/
def reduceLarge (x : Float) : Nat × Float :=
  if x < quarterPi then (0, x)
  else
    let (ix, q) := magnitude x
    let e := q + 61
    let digit := (e / 64).toNat
    let shift := (e % 64).toNat
    let z0 := window digit shift
    let z1 := window (digit + 1) shift
    let z2 := window (digit + 2) shift
    let z2hi := z2 * ix / Nat.pow 2 64
    let z1hi := z1 * ix / Nat.pow 2 64
    let z1lo := z1 * ix % Nat.pow 2 64
    let z0lo := z0 * ix % Nat.pow 2 64
    let lo := (z1lo + z2hi) % Nat.pow 2 64
    let carry := (z1lo + z2hi) / Nat.pow 2 64
    let hi := (z0lo + z1hi + carry) % Nat.pow 2 64
    let j := hi >>> 61
    let hi := ((hi <<< 3) % Nat.pow 2 64) ||| (lo >>> 61)
    let lz := 64 - hi.log2 - 1
    let lz := if hi = 0 then 64 else lz
    let expo := 1023 - (lz + 1)
    let hi := if lz + 1 ≥ 64 then 0
      else ((hi <<< (lz + 1)) % Nat.pow 2 64) ||| (lo >>> (64 - (lz + 1)))
    let hi := (hi >>> 12) ||| (expo <<< 52)
    let z := Float.ofBits (UInt64.ofNat hi)
    let (j, z) := if j % 2 = 1 then ((j + 1) % 8, z - 1) else (j, z)
    (j, z * quarterPi)

/-- Octant `j` (modulo 8, made even) and remainder `z` of a finite `x ≥ 0`, with
`x ≈ j·(π/4) + z`. -/
def octant (x : Float) : Nat × Float :=
  if x ≥ reduceThreshold then reduceLarge x
  else
    let j := truncToNat (x * fourOverPi)
    let y := Float.ofNat j
    let (j, y) := if j % 2 = 1 then (j + 1, y + 1) else (j, y)
    let z := ((x - y * quarterPiA) - y * quarterPiB) - y * quarterPiC
    (j % 8, z)

end SailSim.Elementary
