import SailSim.Binary64.Basic

/-!
# Shortest decimal digits

Every finite binary64 value `v = m · 2^q` is the nearest value to each real number of an
interval around it; the ends belong to the interval when `m` is even (ties go to the even
significand). `shortest` finds the decimal `d · 10^k` with the fewest significant digits
inside that interval, and of two such decimals the nearer to `v`.

The search tries the grids of 1, 2, …, 17 significant digits in turn. On each grid only the
two neighbours of `v` can lie in the interval, and 17 digits always suffice, so the search
is a bounded loop of exact `Nat` comparisons.
-/

namespace SailSim.Binary64

/-- A decimal `digits · 10^exponent`. -/
structure Decimal where
  digits : Nat
  exponent : Int
  deriving Repr, BEq, Inhabited

/-- Compares `d · 10^k` with `a · 2^e` exactly. -/
def cmpScaled (d : Nat) (k : Int) (a : Nat) (e : Int) : Ordering :=
  let lhs := d * Nat.pow 10 k.toNat * Nat.pow 2 (-e).toNat
  let rhs := a * Nat.pow 2 e.toNat * Nat.pow 10 (-k).toNat
  compare lhs rhs

/-- The number of decimal digits of `n` (one for zero). -/
def digitCount (n : Nat) : Nat := (Nat.toDigits 10 n).length

/-- Removes trailing zero digits, moving them into the exponent. -/
def Decimal.trim (x : Decimal) : Decimal :=
  go (digitCount x.digits) x
where
  go : Nat → Decimal → Decimal
    | 0, x => x
    | n + 1, x =>
      if x.digits ≠ 0 ∧ x.digits % 10 = 0 then go n ⟨x.digits / 10, x.exponent + 1⟩ else x

/-- The largest `E` with `10^E ≤ m · 2^q`, for `m > 0`. -/
def decimalExponent (m : Nat) (q : Int) : Int :=
  let guess : Int := ((m.log2 : Int) + q) * 30103 / 100000
  fix 4 guess
where
  fix : Nat → Int → Int
    | 0, e => e
    | n + 1, e =>
      if cmpScaled 1 e m q == .gt then fix n (e - 1)
      else if cmpScaled 1 (e + 1) m q != .gt then fix n (e + 1)
      else e

/-- The rounding interval of a finite positive value with integer view `(m, q)`, scaled by
`2^(q-2)`: its lower end, its upper end, and whether the ends belong to it. -/
def roundingInterval (m : Nat) (exponentField : Nat) : Nat × Nat × Bool :=
  let closerBelow := m = Nat.pow 2 52 ∧ exponentField > 1
  (if closerBelow then 4 * m - 1 else 4 * m - 2, 4 * m + 2, m % 2 = 0)

/-- Whether `d · 10^k` lies in the rounding interval `(lo, hi)` scaled by `2^e`. -/
def inInterval (d : Nat) (k : Int) (lo hi : Nat) (e : Int) (closed : Bool) : Bool :=
  match cmpScaled d k lo e, cmpScaled d k hi e with
  | .gt, .lt => true
  | .eq, .lt => closed
  | .gt, .eq => closed
  | .eq, .eq => closed
  | _, _ => false

/-- The candidate of `p` significant digits for the value with integer view `(m, q)`, if one
of its two neighbours on that grid lies in the rounding interval. -/
def candidate (m : Nat) (q : Int) (ef : Nat) (top : Int) (p : Nat) : Option Decimal :=
  let k := top - (p : Int) + 1
  let num := m * Nat.pow 2 q.toNat * Nat.pow 10 (-k).toNat
  let den := Nat.pow 2 (-q).toNat * Nat.pow 10 k.toNat
  let below := num / den
  let (lo, hi, closed) := roundingInterval m ef
  let e := q - 2
  let okBelow := inInterval below k lo hi e closed
  let okAbove := inInterval (below + 1) k lo hi e closed
  if okBelow && okAbove then
    -- the midpoint of the two neighbours against the value decides
    match cmpScaled (2 * below + 1) k m (q + 1) with
    | .lt => some ⟨below + 1, k⟩
    | .gt => some ⟨below, k⟩
    | .eq => some (if below % 2 = 0 then ⟨below, k⟩ else ⟨below + 1, k⟩)
  else if okBelow then some ⟨below, k⟩
  else if okAbove then some ⟨below + 1, k⟩
  else none

/-- The shortest decimal of a finite value's magnitude, nearest to it among the shortest. -/
def shortestOfMagnitude (m : Nat) (q : Int) (ef : Nat) : Decimal :=
  if m = 0 then ⟨0, 0⟩
  else
    let top := decimalExponent m q
    let found := (List.range 17).findSome? fun i => candidate m q ef top (i + 1)
    (found.getD ⟨m, 0⟩).trim

/-- The shortest decimal that reads back as `|x|`, for finite `x`. -/
def shortest (x : Float) : Decimal :=
  let (m, q) := magnitude x
  shortestOfMagnitude m q (exponentField x)

end SailSim.Binary64
