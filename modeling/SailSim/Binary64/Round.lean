import SailSim.Binary64.Basic

/-!
# Rounding exact values to binary64

`roundBinary m e` is the binary64 value nearest to `m · 2^e`, a tie going to the even
significand; values at or beyond `2^1024` after rounding give `+∞`. The rounding position is
the last significand bit of the result's binade, or `2^-1074` in the subnormal range, so one
integer division with a tie rule does all the work.
-/

namespace SailSim.Binary64

/-- `num / 2^k` rounded to the nearest integer, a tie going to the even one. -/
def shiftRoundEven (num : Nat) (k : Nat) : Nat :=
  let d := Nat.pow 2 k
  let q := num / d
  let r := num % d
  if 2 * r < d then q else if 2 * r > d then q + 1 else if q % 2 = 0 then q else q + 1

/-- The binary64 value nearest to `m · 2^e`. -/
def roundBinary (m : Nat) (e : Int) : Float :=
  if m = 0 then 0
  else
    let top : Int := (m.log2 : Int) + e
    let pos : Int := max (top - 52) (-1074)
    let q : Nat :=
      if pos ≤ e then m * Nat.pow 2 (e - pos).toNat else shiftRoundEven m (pos - e).toNat
    if pos + (q.log2 : Int) ≥ 1024 then 1.0 / 0.0 else ofMagnitude q pos

end SailSim.Binary64
