import SailSim.Time.Rfc3339

/-!
# Durations as text

A duration is a whole number of nanoseconds between `-2⁶³` and `2⁶³ - 1`.

`Duration.parse` reads a signed sequence of decimal numbers, each with an optional fraction
and a unit (`ns`, `us`, `µs`, `μs`, `ms`, `s`, `m`, `h`), such as `1h30m` or `-1.5s`; the
text `0` alone is zero. A fraction is scaled to nanoseconds in binary64 and truncated, and a
total beyond the range of a duration is refused.

`Duration.text` writes the shortest such text: hours, minutes and seconds with a trimmed
fraction (`1h2m3.5s`), and below a second a single smaller unit (`1.5ms`, `2µs`, `7ns`), or `0s`.
-/

namespace SailSim.Duration

/-- Nanoseconds in each unit. -/
def unitNanos : String → Option Nat
  | "ns" => some 1
  | "us" | "µs" | "μs" => some 1000
  | "ms" => some 1000000
  | "s" => some 1000000000
  | "m" => some 60000000000
  | "h" => some 3600000000000
  | _ => none

/-- The bound every partial sum must stay within: `2⁶³`. -/
def limit : Nat := Nat.pow 2 63

/-- Reads leading decimal digits into `acc`; fails when the value passes `2⁶³`. -/
def leadingInt : List Char → Nat → Option (Nat × List Char)
  | c :: rest, acc =>
    if c.isDigit then
      if acc > limit / 10 then none else
      let acc := acc * 10 + (c.toNat - '0'.toNat)
      if acc > limit then none else leadingInt rest acc
    else some (acc, c :: rest)
  | [], acc => some (acc, [])

/-- Reads the digits of a fraction: their value and `10 ^ count` as a float, digits past the
precision of 63 bits skipped. -/
def leadingFraction : List Char → Nat → Float → Bool → Nat × Float × List Char
  | c :: rest, x, scale, overflow =>
    if c.isDigit then
      if overflow then leadingFraction rest x scale true
      else if x > (limit - 1) / 10 then leadingFraction rest x scale true
      else
        let y := x * 10 + (c.toNat - '0'.toNat)
        if y > limit then leadingFraction rest x scale true
        else leadingFraction rest y (scale * 10) false
    else (x, scale, c :: rest)
  | [], x, scale, _ => (x, scale, [])

/-- Nanoseconds as a `uint64` conversion of a float takes them: truncated, and zero for a
negative value. -/
def floatNanos (x : Float) : Nat := x.toUInt64.toNat

/-- Reads the terms of a duration after its sign, adding them to `total`. -/
def terms (orig : String) : Nat → List Char → Nat → Except String Nat
  | 0, _, total => .ok total
  | fuel + 1, s, total =>
    match s with
    | [] => .ok total
    | c :: _ =>
      let invalid : Except String Nat := .error ("time: invalid duration " ++ Time.quote orig)
      if !(c == '.' || c.isDigit) then invalid else
      match leadingInt s 0 with
      | none => invalid
      | some (v, rest) =>
        let pre := rest.length != s.length
        let (f, scale, rest, post) := match rest with
          | '.' :: more =>
            let (f, scale, after) := leadingFraction more 0 1 false
            (f, scale, after, after.length != more.length)
          | _ => (0, 1, rest, false)
        if !pre && !post then invalid else
        let u := rest.takeWhile fun c => !(c == '.' || c.isDigit)
        let rest := rest.drop u.length
        if u.isEmpty then .error ("time: missing unit in duration " ++ Time.quote orig) else
        match unitNanos (String.ofList u) with
        | none => .error ("time: unknown unit " ++ Time.quote (String.ofList u) ++
            " in duration " ++ Time.quote orig)
        | some unit =>
          if v > limit / unit then invalid else
          let v := v * unit
          let v := if f > 0 then v + floatNanos (f.toFloat * (unit.toFloat / scale)) else v
          if v > limit then invalid else
          let total := total + v
          if total > limit then invalid else terms orig fuel rest total

/-- The nanoseconds a duration text stands for. -/
def parse (s : String) : Except String Int := do
  let cs := s.toList
  let (neg, body) := match cs with
    | '-' :: rest => (true, rest)
    | '+' :: rest => (false, rest)
    | _ => (false, cs)
  if body == ['0'] then return 0
  if body.isEmpty then throw ("time: invalid duration " ++ Time.quote s)
  let d ← terms s (body.length + 1) body 0
  if neg then pure (-(d : Int))
  else if d > limit - 1 then throw ("time: invalid duration " ++ Time.quote s)
  else pure d

/-- The digits of `v / 10 ^ prec` after the point, trailing zeros dropped, with the point when
any digit remains; and the quotient. -/
def fraction (v prec : Nat) : String × Nat :=
  let digits := (List.range prec).map fun i => (v / Nat.pow 10 i) % 10
  let kept := (digits.dropWhile (· == 0)).reverse
  let text := String.ofList (kept.map fun d => Char.ofNat (d + '0'.toNat))
  (if kept.isEmpty then "" else "." ++ text, v / Nat.pow 10 prec)

/-- The text of a duration of `d` nanoseconds. -/
def text (d : Int) : String :=
  let u := d.natAbs
  let sign := if d < 0 then "-" else ""
  if u == 0 then "0s"
  else if u < 1000000000 then
    let (prec, unit) :=
      if u < 1000 then (0, "ns") else if u < 1000000 then (3, "µs") else (6, "ms")
    let (frac, whole) := fraction u prec
    sign ++ toString whole ++ frac ++ unit
  else
    let (frac, secs) := fraction u 9
    let body := toString (secs % 60) ++ frac ++ "s"
    let mins := secs / 60
    let body := if mins > 0 then
        let hours := mins / 60
        (if hours > 0 then toString hours ++ "h" else "") ++ toString (mins % 60) ++ "m" ++ body
      else body
    sign ++ body

end SailSim.Duration
