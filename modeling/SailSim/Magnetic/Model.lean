import SailSim.Magnetic.Coefficients
import SailSim.Elementary.Trig
import SailSim.Elementary.Arc
import SailSim.Elementary.Power
import SailSim.Geo.Ellipsoid

/-!
# Evaluating the magnetic model

The field at a point is the gradient of the model's spherical harmonic potential:

1. the geodetic position (degrees, metres above the ellipsoid) becomes a geocentric latitude
   `φ'` and radius `r`;
2. the Schmidt semi-normalised associated Legendre functions of `x = sin φ'` are
   `Pₙᵐ(x) = √(2 (n-m)!/(n+m)!) · (1 - x²)^(m/2) · Pₙ⁽ᵐ⁾(x)` (the factor under the root is 1
   for `m = 0`), with the Legendre polynomials `Pₙ` built as coefficient lists by Bonnet's
   recurrence, differentiated `m` times and evaluated by Horner's rule;
3. their derivatives by latitude come from the next degree:
   `dPₙᵐ = (n+1) tan φ' Pₙᵐ - √((n+1)² - m²) / cos φ' · Pₙ₊₁ᵐ`;
4. the north, east and down components in the geocentric frame are summed over degree and
   order, each term weighted by the coefficients at the date and by `(a/r)^(n+2)` for the
   reference radius `a`; the east component is summed degree by degree and each degree's
   sum divided by `cos φ'`;
5. the north and down components are turned from the geocentric to the geodetic vertical.

`MagneticField` holds the result in nanotesla with its derived totals, the inclination and
the declination in degrees.
-/

namespace SailSim.Magnetic

open Elementary

/-- The reference radius of the model's potential, in metres. -/
def referenceRadius : Float := 6371200

/-- The field at a point: north, east and down components in nanotesla. -/
structure MagneticField where
  x : Float
  y : Float
  z : Float
  deriving Repr

namespace MagneticField

/-- The horizontal intensity. -/
def horizontal (b : MagneticField) : Float := hypot b.x b.y

/-- The total intensity. -/
def total (b : MagneticField) : Float := hypot b.horizontal b.z

/-- The inclination below the horizontal, in degrees. -/
def inclination (b : MagneticField) : Float := atan2 b.z b.horizontal / (pi / 180)

/-- The declination east of north, in degrees. -/
def declination (b : MagneticField) : Float := atan2 b.y b.x / (pi / 180)

end MagneticField

/-- The coefficients of `Pₖ`, lowest power first, from those of `a = Pₖ₋₁` and `b = Pₖ₋₂` by
Bonnet's recurrence `Pₖ = ((2k-1)/k) x Pₖ₋₁ - ((k-1)/k) Pₖ₋₂`. -/
def bonnet (k : Nat) (a b : Array Float) : Array Float :=
  let p := (2 * k - 1 : Nat).toFloat / k.toFloat
  let q := (k - 1 : Nat).toFloat / k.toFloat
  Array.ofFn fun (i : Fin (k + 1)) =>
    (if i.val = 0 then 0 else p * a.getD (i.val - 1) 0) - q * b.getD i.val 0

/-- The highest degree of Legendre function the evaluation needs: one past the model's,
for the derivatives. -/
def topDegree : Nat := maxDegree + 1

/-- The coefficients of the Legendre polynomials `P₀` to `P_topDegree`, indexed by degree. -/
def legendrePolys : Array (Array Float) :=
  (List.range' 2 (topDegree - 1)).foldl
    (fun t k => t.push (bonnet k (t.getD (k - 1) #[]) (t.getD (k - 2) #[]))) #[#[1], #[0, 1]]

/-- The derivative of a polynomial given by its coefficients, lowest power first; the zero
polynomial `#[0]` for a constant. -/
def derivative (c : Array Float) : Array Float :=
  let d := (List.range (c.size - 1)).toArray.map fun i => c.getD (i + 1) 0 * (i + 1).toFloat
  if d.isEmpty then #[0] else d

/-- The coefficients of `Pₙ⁽ᵐ⁾`, the `m`-th derivative of `Pₙ`, indexed by `n` then `m`. -/
def legendreDerivs : Array (Array (Array Float)) :=
  legendrePolys.map fun c =>
    (List.range c.size).foldl (fun ds _ => ds.push (derivative (ds.back?.getD c))) #[c]

/-- A polynomial given by its coefficients, lowest power first, at `x` by Horner's rule. -/
def horner (c : Array Float) (x : Float) : Float :=
  c.foldr (fun a v => v * x + a) 0

/-- `n!` as a product of floats. -/
def factorial (n : Nat) : Float :=
  (List.range' 2 (n - 1)).foldl (fun v i => v * i.toFloat) 1

/-- The Schmidt semi-normalisation of degree `n` and order `m`: 1 for `m = 0`, otherwise
`√(2 (n-m)!/(n+m)!)`. -/
def schmidt (n m : Nat) : Float :=
  if m = 0 then 1 else Float.sqrt (2 * factorial (n - m) / factorial (n + m))

/-- The Schmidt semi-normalised associated Legendre function `Pₙᵐ` at `x`. -/
def associated (n m : Nat) (x : Float) : Float :=
  let f := if m = 0 then 1 else powHalf (1 - x * x) m
  schmidt n m * f * horner ((legendreDerivs.getD n #[]).getD m #[]) x

/-- The geocentric latitude (radians) and radius (metres) of a geodetic position. -/
def geocentric (latDeg altM : Float) : Float × Float :=
  let φ := latDeg * pi / 180
  let s := sin φ
  let e2 := Geo.eccentricitySq
  let rc := Geo.semiMajor / Float.sqrt (1 - e2 * (s * s))
  let xp := (rc + altM) * cos φ
  let zp := (rc * (1 - e2) + altM) * s
  let r := Float.sqrt (xp * xp + zp * zp)
  (asin (zp / r), r)

/-- The running sums of the field: north and down over all terms, east per degree. -/
structure Sums where
  north : Float := 0
  down : Float := 0
  east : Array Float := Array.replicate (maxDegree + 1) 0

/-- The field of the model at latitude and longitude in degrees, `altM` metres above the
ellipsoid, and the decimal year `year`. -/
def field (latDeg lonDeg altM year : Float) : MagneticField :=
  let dt := year - epoch
  let (φc, r) := geocentric latDeg altM
  let lon := lonDeg * pi / 180
  let x := sin φc
  let cp := cos φc
  let tp := tan φc
  let ratio := referenceRadius / r
  let sums := terms.foldl (fun acc t =>
    let rr := Nat.repeat (· * ratio) t.n (ratio * ratio)
    let g := t.g + dt * t.gRate
    let h := t.h + dt * t.hRate
    let cm := if t.m = 0 then 1 else cos (t.m.toFloat * lon)
    let sm := if t.m = 0 then 0 else sin (t.m.toFloat * lon)
    let a := g * cm + h * sm
    let b := g * sm - h * cm
    let pn := associated t.n t.m x
    let p1 := associated (t.n + 1) t.m x
    let n1 := (t.n + 1).toFloat
    let q := Float.sqrt ((t.n + 1) * (t.n + 1) - t.m * t.m : Nat).toFloat
    let dp := n1 * tp * pn - q / cp * p1
    { north := acc.north - a * dp * rr
      down := acc.down - rr * a * n1 * pn
      east := acc.east.modify t.n (· + rr * b * t.m.toFloat * pn) }) ({} : Sums)
  let east := (sums.east.extract 1).foldl (fun y e => y + e / cp) 0
  let ψ := φc - latDeg * pi / 180
  ⟨sums.north * cos ψ - sums.down * sin ψ, east, sums.north * sin ψ + sums.down * cos ψ⟩

end SailSim.Magnetic
