/-!
# Instants and civil time

An `Instant` is a point of time: whole seconds since 1970-01-01T00:00:00 UTC, a count of
nanoseconds within the second, and the offset from UTC of the zone it is shown in. Calendar
dates are proleptic Gregorian, and a day has 86 400 seconds.

`daysFromCivil` and `civilFromDays` pass between a date and its day number (days since
1970-01-01) by counting in 400-year eras of 146 097 days, with the year starting in March so
that the leap day falls last.

Instants are written in the RFC 3339 form with as many fraction digits as needed:
`2024-06-01T12:00:00.5Z`, or `+02:00` in place of `Z` for a zone east of UTC.
-/

namespace SailSim

/-- A point of time with the zone offset it is shown in. -/
structure Instant where
  /-- Seconds since 1970-01-01T00:00:00 UTC. -/
  unix : Int
  /-- Nanoseconds within the second, below 10⁹. -/
  nanos : Nat
  /-- Seconds east of UTC of the zone the instant is shown in. -/
  offset : Int := 0
  deriving Repr, BEq, DecidableEq

/-- A date and time of day. -/
structure Civil where
  year : Int
  /-- 1 to 12. -/
  month : Nat
  /-- 1 to the length of the month. -/
  day : Nat
  hour : Nat
  minute : Nat
  second : Nat
  nanos : Nat
  deriving Repr, BEq

namespace Civil

/-- Whether `y` is a leap year. -/
def isLeap (y : Int) : Bool := y % 4 == 0 && (y % 100 != 0 || y % 400 == 0)

/-- The number of days in a month of a year. -/
def daysIn (month : Nat) (year : Int) : Nat :=
  match month with
  | 2 => if isLeap year then 29 else 28
  | 4 | 6 | 9 | 11 => 30
  | _ => 31

/-- The number of the day `y-m-d`, counted from 1970-01-01. -/
def daysFromCivil (y : Int) (m d : Nat) : Int :=
  let y := if m ≤ 2 then y - 1 else y
  let era := y / 400
  let yoe := y - era * 400
  let mp : Int := (m + 9) % 12
  let doy := (153 * mp + 2) / 5 + d - 1
  let doe := yoe * 365 + yoe / 4 - yoe / 100 + doy
  era * 146097 + doe - 719468

/-- The date of a day number counted from 1970-01-01. -/
def civilFromDays (z : Int) : Int × Nat × Nat :=
  let z := z + 719468
  let era := z / 146097
  let doe := z - era * 146097
  let yoe := (doe - doe / 1460 + doe / 36524 - doe / 146096) / 365
  let y := yoe + era * 400
  let doy := doe - (365 * yoe + yoe / 4 - yoe / 100)
  let mp := (5 * doy + 2) / 153
  let d := doy - (153 * mp + 2) / 5 + 1
  let m := if mp < 10 then mp + 3 else mp - 9
  (if m ≤ 2 then y + 1 else y, m.toNat, d.toNat)

/-- The instant of a civil time read in the zone `offset` seconds east of UTC. -/
def toInstant (c : Civil) (offset : Int) : Instant :=
  ⟨daysFromCivil c.year c.month c.day * 86400 + c.hour * 3600 + c.minute * 60 + c.second -
    offset, c.nanos, offset⟩

end Civil

namespace Instant

/-- The zero instant: 0001-01-01T00:00:00 UTC. -/
def zero : Instant := ⟨Civil.daysFromCivil 1 1 1 * 86400, 0, 0⟩

/-- The civil time of an instant in its own zone. -/
def toCivil (t : Instant) : Civil :=
  let wall := t.unix + t.offset
  let days := wall / 86400
  let secs := (wall % 86400).toNat
  let (y, m, d) := Civil.civilFromDays days
  ⟨y, m, d, secs / 3600, secs % 3600 / 60, secs % 60, t.nanos⟩

/-- `n` in decimal, padded with zeros to `width` digits. -/
def pad (width : Nat) (n : Nat) : String :=
  let s := toString n
  String.ofList (List.replicate (width - s.length) '0') ++ s

/-- The fraction of a second: a point and the nanoseconds without trailing zeros, or
nothing for a whole second. -/
def fraction (nanos : Nat) : String :=
  if nanos == 0 then ""
  else
    let digits := (pad 9 nanos).toList.reverse.dropWhile (· == '0') |>.reverse
    "." ++ String.ofList digits

/-- The zone suffix: `Z` for UTC, else the signed offset in hours and minutes. -/
def zoneSuffix (offset : Int) : String :=
  if offset == 0 then "Z"
  else
    let m := offset.natAbs / 60
    (if offset < 0 then "-" else "+") ++ pad 2 (m / 60) ++ ":" ++ pad 2 (m % 60)

/-- The year in at least four digits, with a minus sign before the year zero. -/
def yearText (y : Int) : String :=
  if y < 0 then "-" ++ pad 4 y.natAbs else pad 4 y.toNat

/-- The RFC 3339 text of an instant, with the fraction digits it needs. -/
def format (t : Instant) : String :=
  let c := t.toCivil
  yearText c.year ++ "-" ++ pad 2 c.month ++ "-" ++ pad 2 c.day ++ "T" ++ pad 2 c.hour ++ ":" ++
    pad 2 c.minute ++ ":" ++ pad 2 c.second ++ fraction c.nanos ++ zoneSuffix t.offset

/-- Whether the instant is the zero instant. -/
def isZero (t : Instant) : Bool := t.unix == zero.unix && t.nanos == 0

/-- The instant `d` nanoseconds later (earlier for a negative `d`). -/
def addNanos (t : Instant) (d : Int) : Instant :=
  let total := (t.nanos : Int) + d
  { t with unix := t.unix + total / 1000000000, nanos := (total % 1000000000).toNat }

/-- Nanoseconds since 1970 as a signed 64-bit count, wrapping around beyond its range. -/
def unixNanos (t : Instant) : Int :=
  let n := t.unix * 1000000000 + t.nanos
  let m := n % (Int.pow 2 64)
  if m ≥ Int.pow 2 63 then m - Int.pow 2 64 else m

end Instant

end SailSim
