import SailSim.Binary64.Shortest

/-!
# Number text

Writing a `Float` as text takes two decisions beyond its digits: which exponents are written
positionally and how an exponent is spelled. A `FloatStyle` records them, and
`FloatStyle.render` applies them to the shortest digits of `Binary64.Shortest`.

`fixed` writes a value with a fixed number of places, rounding the exact binary value to the
nearest decimal of that many places, a tie going to the even last digit.
-/

namespace SailSim

open Binary64

/-- The decimal digits of `n`, most significant first. -/
def natDigits (n : Nat) : String := String.ofList (Nat.toDigits 10 n)

/-- `n` zeros. -/
def zeros (n : Nat) : String := String.ofList (List.replicate n '0')

/-- Positional text of a decimal: digits with a point where the exponent puts it, no
exponent, no trailing fraction zeros. -/
def Binary64.Decimal.positional (x : Decimal) : String :=
  let ds := natDigits x.digits
  let n := ds.length
  let point : Int := n + x.exponent
  if x.digits = 0 then "0"
  else if point ≤ 0 then "0." ++ zeros (-point).toNat ++ ds
  else if point ≥ n then ds ++ zeros (point - n).toNat
  else
    let cs := ds.toList
    String.ofList (cs.take point.toNat) ++ "." ++ String.ofList (cs.drop point.toNat)

/-- The exponent of the leading digit: `x` lies in `[10^e, 10^(e+1))`. -/
def Binary64.Decimal.leadExponent (x : Decimal) : Int :=
  (natDigits x.digits).length + x.exponent - 1

/-- Scientific text `d.ddd` then `e`, the exponent's sign and at least `minDigits` digits for
a nonnegative exponent and `minNegDigits` for a negative one. -/
def Binary64.Decimal.scientific (x : Decimal) (minDigits minNegDigits : Nat) : String :=
  let cs := (natDigits x.digits).toList
  let lead := String.ofList (cs.take 1)
  let rest := String.ofList (cs.drop 1)
  let e := x.leadExponent
  let mant := if rest.isEmpty then lead else lead ++ "." ++ rest
  let ed := natDigits e.natAbs
  let width := if e < 0 then minNegDigits else minDigits
  let ed := zeros (width - ed.length) ++ ed
  mant ++ "e" ++ (if e < 0 then "-" else "+") ++ ed

/-- How a format writes floats. -/
structure FloatStyle where
  /-- The smallest exponent of the leading digit written positionally. -/
  positionalFrom : Int
  /-- The first exponent of the leading digit written with an exponent again. -/
  positionalBelow : Int
  /-- Least digits of a nonnegative exponent. -/
  exponentDigits : Nat
  /-- Least digits of a negative exponent. -/
  negExponentDigits : Nat
  /-- Text of NaN. -/
  nan : String := "NaN"
  /-- Text of positive infinity. -/
  posInf : String := "+Inf"
  /-- Text of negative infinity. -/
  negInf : String := "-Inf"

/-- Writes `x` in style `s` with its shortest digits; zero is `0`, and a set sign bit gives a
leading minus, also for zero. -/
def FloatStyle.render (s : FloatStyle) (x : Float) : String :=
  if x.isNaN then s.nan
  else if x.isInf then (if x > 0 then s.posInf else s.negInf)
  else
    let d := shortest x
    let body :=
      if d.digits = 0 then "0"
      else
        let e := d.leadExponent
        if s.positionalFrom ≤ e ∧ e < s.positionalBelow then d.positional
        else d.scientific s.exponentDigits s.negExponentDigits
    if signBit x then "-" ++ body else body

/-- Shortest digits written positionally whatever the magnitude. -/
def FloatStyle.plain : FloatStyle := ⟨-100000, 100000, 2, 2, "NaN", "+Inf", "-Inf"⟩

/-- Shortest digits, positional for leading exponents from -4 to 5, else `1e+06` style with
at least two exponent digits: the general format of values in messages and logs. -/
def FloatStyle.general : FloatStyle := ⟨-4, 6, 2, 2, "NaN", "+Inf", "-Inf"⟩

/-- Rounds `num / den` to the nearest integer, a tie going to the even one. -/
def roundHalfEven (num den : Nat) : Nat :=
  let q := num / den
  let r := num % den
  if 2 * r < den then q else if 2 * r > den then q + 1 else if q % 2 = 0 then q else q + 1

/-- `x` with exactly `places` digits after the point, from its exact binary value. -/
def fixed (x : Float) (places : Nat) : String :=
  if x.isNaN then "NaN"
  else if x.isInf then (if x > 0 then "+Inf" else "-Inf")
  else
    let (m, q) := magnitude x
    let num := m * Nat.pow 2 q.toNat * Nat.pow 10 places
    let den := Nat.pow 2 (-q).toNat
    let n := roundHalfEven num den
    let ds := natDigits n
    let ds := zeros (places + 1 - ds.length) ++ ds
    let cs := ds.toList
    let whole := String.ofList (cs.take (cs.length - places))
    let frac := String.ofList (cs.drop (cs.length - places))
    let body := if places = 0 then whole else whole ++ "." ++ frac
    if signBit x then "-" ++ body else body

end SailSim
