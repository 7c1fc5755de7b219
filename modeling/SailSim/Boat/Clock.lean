import SailSim.Scalar

/-!
# The simulation clock

Simulated time is a count of whole microseconds in a 64-bit word. Advancing by `dt` seconds
adds `dt · 10⁶` rounded to the nearest integer, halves away from zero, and narrowed to the
word as `Scalar.nearestWord` says: an integer in `[-2⁶³, 2⁶⁴)` wraps modulo `2⁶⁴`, and
anything else (NaN, an infinity, a value out of range) becomes `2⁶³`. The count itself wraps
modulo `2⁶⁴`. Read in seconds, the clock is the count divided by `10⁶`.
-/

namespace SailSim

/-- A microsecond simulation clock. -/
structure Clock where
  micros : UInt64
  deriving Repr, BEq

namespace Clock

variable {α : Type} [Scalar α]

/-- The clock at time zero. -/
def start : Clock := ⟨0⟩

/-- The microseconds that a step of `dt` seconds adds. -/
def ticks (dt : α) : UInt64 := Scalar.nearestWord (dt * 1e6)

/-- The clock moved on by `dt` seconds. -/
def advance (c : Clock) (dt : α) : Clock := ⟨c.micros + ticks dt⟩

/-- The simulated time in seconds. -/
def seconds (c : Clock) : α := Scalar.ofNat c.micros.toNat / 1e6

end Clock

end SailSim
