/-!
# Binary64 values as integers

A `Float` is a binary64 pattern: a sign bit, an 11-bit biased exponent and a 52-bit fraction.
This module decodes a finite value into an integer significand `m` and a binary exponent `q`
with `|x| = m · 2^q`, and builds a value back from such a pair when it is representable.

These views are plain `Nat` and `Int` arithmetic. The exact operations of the library (the
truncated remainder, the conversion to a 64-bit word, the decimal digits of a value) are
computed on them, so none of them rounds twice.
-/

namespace SailSim.Binary64

/-- Whether the sign bit of `x` is set; true for `-0.0` and for negative NaN patterns. -/
def signBit (x : Float) : Bool := x.toBits >>> 63 == 1

/-- The biased exponent field: 0 for zeros and subnormals, 2047 for infinities and NaN. -/
def exponentField (x : Float) : Nat := ((x.toBits >>> 52) &&& 0x7FF).toNat

/-- The 52-bit fraction field. -/
def fractionField (x : Float) : Nat := (x.toBits &&& 0xFFFFFFFFFFFFF).toNat

/-- Integer significand and binary exponent of the magnitude of a finite value,
`|x| = m · 2^q`, with the hidden bit of a normal number made explicit. -/
def magnitude (x : Float) : Nat × Int :=
  let e := exponentField x
  let f := x.toBits &&& 0xFFFFFFFFFFFFF
  if e = 0 then (f.toNat, -1074) else ((f ||| 0x10000000000000).toNat, (e : Int) - 1075)

/-- `m · 2^q` rounded to the nearest `Float`, a tie going to the even significand; exact
whenever `m < 2^53` and the value is representable. -/
def ofMagnitude (m : Nat) (q : Int) : Float :=
  .ofModel (.pack (.round .binary64 .positive m q))

/-- `m · 2^q` with the sign bit `neg`, exact under the conditions of `ofMagnitude`. -/
def ofSigned (neg : Bool) (m : Nat) (q : Int) : Float :=
  let v := ofMagnitude m q
  if neg then -v else v

/-- The integer part of a finite value, rounded toward zero. -/
def truncInt (x : Float) : Int :=
  let (m, q) := magnitude x
  let n : Nat := if 0 ≤ q then m * Nat.pow 2 q.toNat else m / Nat.pow 2 (-q).toNat
  if signBit x then -(n : Int) else n

/-- The integer nearest to a finite value, halves rounded away from zero. -/
def roundInt (x : Float) : Int :=
  let (m, q) := magnitude x
  -- `|x| = m / 2^k` with `k = -q`; adding half of `2^k` first makes the division round
  let n : Nat := if 0 ≤ q then m * Nat.pow 2 q.toNat
    else (m + Nat.pow 2 (-q).toNat / 2) / Nat.pow 2 (-q).toNat
  if signBit x then -(n : Int) else n

/-- The integer nearest to `x`, halves away from zero, as a 64-bit word, as rounding followed
by the x86-64 conversion instructions produce it: an integer in `[-2^63, 2^64)` is taken
modulo `2^64`, and every other value, NaN and the infinities included, gives `2^63`. -/
def roundToWord (x : Float) : UInt64 :=
  if x.isNaN || x.isInf then 0x8000000000000000
  else
    let i := roundInt x
    if -(Int.pow 2 63 : Int) ≤ i ∧ i < Int.pow 2 64 then UInt64.ofNat (i % Int.pow 2 64).toNat
    else 0x8000000000000000

/-- The 64-bit word of a value known to lie in `[0, 2^64)`, rounded toward zero. -/
def truncToNat (x : Float) : Nat := (truncInt x).toNat

/-- `x` with the sign of `y`: the magnitude bits of the one and the sign bit of the other. -/
def copySign (x y : Float) : Float :=
  Float.ofBits ((x.toBits &&& 0x7FFFFFFFFFFFFFFF) ||| (y.toBits &&& 0x8000000000000000))

theorem signBit_def (x : Float) : signBit x = (x.toBits >>> 63 == 1) := rfl

end SailSim.Binary64
