import SailSim.Controls
import SailSim.Json.Decode
import SailSim.Text.Number

/-!
# Control schedules

A schedule replays servo commands against simulated time. It is written as a JSON array of
keyframes `{"t": seconds, "servos": {"channel": pwm, …}, "armed": bool}`: from time `t` on,
the named channels take the given pulse widths and every other channel keeps the value it
had, starting from the neutral command.

`Schedule.build` resolves keyframes into setpoints, checking that every time is
non-negative and later than the one before, and that every channel key is a channel number
whose pulse width lies in `[1000, 2000]`. Within one keyframe the entries are applied in
the order they were read. `Schedule.setpoint` holds the setpoint of the last keyframe at or before
a time, and the neutral command before the first one; it finds it by a halving search for the
first setpoint that starts after the time.
-/

namespace SailSim

/-- One keyframe as written: its time, the channels it sets and the armed flag it sets. -/
structure Keyframe where
  t : Float := 0
  /-- Channel keys with their pulse widths, in the order read. -/
  servos : List (String × UInt16) := []
  armed : Option Bool := none
  deriving Repr

/-- The command in effect from time `t` on. -/
structure Setpoint where
  t : Float
  input : Controls
  armed : Option Bool
  deriving Repr

/-- Setpoints in increasing time. -/
structure Schedule where
  points : List Setpoint
  deriving Repr

/-- Why keyframes do not make a schedule. -/
inductive ScheduleError where
  /-- The text is not an array of keyframes. -/
  | unreadable (e : Json.DecodeError)
  | negativeTime (index : Nat) (t : Float)
  /-- A keyframe not later than the one before it. -/
  | notAfter (index : Nat) (t previous : Float)
  | unknownChannel (index : Nat) (key : String)
  | pwmOutOfRange (index : Nat) (channel : Nat) (pwm : UInt16)

/-- The message of a schedule error. -/
def ScheduleError.message (e : ScheduleError) : String :=
  "invalid schedule: " ++
    match e with
    | .unreadable e => e.message
    | .negativeTime i t => s!"keyframe {i} at negative time " ++ FloatStyle.general.render t
    | .notAfter i t p => s!"keyframe {i} at " ++ FloatStyle.general.render t ++ " is not after " ++
        FloatStyle.general.render p
    | .unknownChannel i k => s!"keyframe {i} has unknown channel " ++ Text.quote k
    | .pwmOutOfRange i c p => s!"keyframe {i} channel {c} pwm {p} out of range"

/-- The value of a decimal integer with an optional sign, as channel keys are written. -/
def readDecimalInt (s : String) : Option Int :=
  let digitsValue (ds : List Char) : Option Nat :=
    if !ds.isEmpty && ds.all Char.isDigit then some (ds.foldl (fun n c => n * 10 + (c.toNat - 48)) 0)
    else none
  match s.toList with
  | '+' :: ds => (digitsValue ds).map Int.ofNat
  | '-' :: ds => (digitsValue ds).map fun n => -(n : Int)
  | ds => (digitsValue ds).map Int.ofNat

/-- The channel a key names, if it is a channel number. -/
def channelOfKey? (key : String) : Option (Fin 16) :=
  match readDecimalInt key with
  | some (.ofNat n) => if h : n < 16 then some ⟨n, h⟩ else none
  | _ => none

/-- Whether a pulse width lies in the servo range. -/
def pwmInRange (pwm : UInt16) : Bool :=
  Controls.pwmMin ≤ pwm.toNat && pwm.toNat ≤ Controls.pwmMax

/-- The command after applying a keyframe's entries in order, or the first bad entry. -/
def applyServos (index : Nat) (c : Controls) :
    List (String × UInt16) → Except ScheduleError Controls
  | [] => pure c
  | (key, pwm) :: rest =>
    match channelOfKey? key with
    | none => throw (.unknownChannel index key)
    | some ch =>
      if pwmInRange pwm then applyServos index (c.set ch pwm) rest
      else throw (.pwmOutOfRange index ch.val pwm)

/-- Resolves keyframes from `index` on, after the keyframe time `previous` (none for the
first) and with the command `c` in effect. -/
def resolve (index : Nat) (previous : Option Float) (c : Controls) :
    List Keyframe → Except ScheduleError (List Setpoint)
  | [] => pure []
  | f :: fs => do
    if f.t < 0 then throw (.negativeTime index f.t)
    match previous with
    | some p => if f.t ≤ p then throw (.notAfter index f.t p)
    | none => pure ()
    let c ← applyServos index c f.servos
    let rest ← resolve (index + 1) (some f.t) c fs
    pure (⟨f.t, c, f.armed⟩ :: rest)

/-- Halving search of `[lo, hi)` for the first index at which `f` holds, `hi` when there is
none: the middle index `(lo + hi) / 2` is tested, and the search goes on below it when `f`
holds there and above it otherwise. The answer is that first index when `f` is monotone. -/
def searchIndex (f : Nat → Bool) (lo hi : Nat) : Nat :=
  if lo < hi then
    let mid := (lo + hi) / 2
    if f mid then searchIndex f lo mid else searchIndex f (mid + 1) hi
  else lo
termination_by hi - lo

namespace Schedule

/-- The schedule of keyframes, or the first keyframe that breaks the rules. -/
def build (frames : List Keyframe) : Except ScheduleError Schedule :=
  (⟨·⟩) <$> resolve 0 none Controls.neutral frames

/-- The number of keyframes. -/
def length (s : Schedule) : Nat := s.points.length

/-- Whether the setpoint at index `k` starts after `t`; past the last setpoint, true. -/
def startsAfter (s : Schedule) (t : Float) (k : Nat) : Bool :=
  match s.points[k]? with
  | some p => p.t > t
  | none => true

/-- The setpoint in effect at `t`: the search finds the first setpoint starting after `t`, and
the one before it is in effect. Without one the result is the neutral command and `false`. -/
def setpoint (s : Schedule) (t : Float) : Setpoint × Bool :=
  match searchIndex (s.startsAfter t) 0 s.points.length with
  | i + 1 =>
    match s.points[i]? with
    | some p => (p, true)
    | none => (⟨0, Controls.neutral, none⟩, false)
  | 0 => (⟨0, Controls.neutral, none⟩, false)

/-- Reads a keyframe. -/
def keyframeReader : Json.Decoder Keyframe :=
  Json.Decoder.record "runner.Keyframe" [
    Json.Decoder.field "t" (·.t) (fun k v => { k with t := v }) Json.Decoder.float,
    Json.Decoder.field "servos" (·.servos) (fun k v => { k with servos := v })
      (Json.Decoder.map "map[string]uint16" Json.Decoder.uint16 0),
    Json.Decoder.field "armed" (·.armed) (fun k v => { k with armed := v }) Json.Decoder.optBool]

/-- The schedule a JSON text describes. -/
def parse (text : String) : Except ScheduleError Schedule := do
  let frames ← (Json.Decoder.run (Json.Decoder.list "[]runner.Keyframe" keyframeReader {})
    "" [] text).mapError .unreadable
  build frames

end Schedule

/-- The setpoint of an optional schedule at `t`; without a schedule, the neutral command. -/
def Schedule.setpointOf (s : Option Schedule) (t : Float) : Setpoint × Bool :=
  match s with
  | some s => s.setpoint t
  | none => (⟨0, Controls.neutral, none⟩, false)

end SailSim
