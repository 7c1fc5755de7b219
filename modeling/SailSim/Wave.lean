import SailSim.Geometry.Attitude

/-!
# Swell

A deterministic swell disturbs the boat. While armed and with waves on (a mode other than
off, a nonzero amplitude and a positive length), the phase advances by the distance the wave
travels relative to the boat, the surface slope under the boat is read off the phase, and the
disturbance pulls roll and pitch toward that slope; in heave mode it also moves the boat
vertically. Otherwise the phase and slope reset to zero and the disturbance only levels the
boat.

`wrapTwoPi` reduces a phase into `[0, 2π)`.
-/

namespace SailSim

/-- The wave enable setting by code: 0 off, 1 attitude only, 2 attitude and heave; other
codes act as attitude only. -/
structure WaveMode where
  code : Int
  deriving Repr, BEq, DecidableEq

namespace WaveMode

/-- No waves. -/
def off : WaveMode := ⟨0⟩
/-- Roll and pitch disturbance. -/
def attitude : WaveMode := ⟨1⟩
/-- Roll, pitch and vertical heave. -/
def heave : WaveMode := ⟨2⟩

end WaveMode

/-- The swell. -/
structure WaveSettings (α : Type) where
  mode : WaveMode
  /-- Crest to trough, m. -/
  amplitude : α
  /-- m. -/
  length : α
  /-- m/s. -/
  speed : α
  /-- Travel heading, degrees. -/
  direction : α

/-- Scales of the disturbance terms. -/
structure WaveGains (α : Type) where
  angle : α
  heave : α

/-- The wave state carried between steps. -/
structure WaveState (α : Type) where
  /-- Radians, in `[0, 2π)`. -/
  phase : α
  /-- Body rate disturbance, rad/s. -/
  gyro : Vec3 α
  /-- Earth down velocity disturbance, m/s. -/
  heave : α
  /-- Surface slope at the current phase. -/
  slope : α

namespace WaveSettings

variable {α : Type} [Scalar α]

/-- No swell. -/
def calm : WaveSettings α := ⟨WaveMode.off, 0, 0, 0, 0⟩

/-- Whether the swell acts: a mode other than off, a nonzero amplitude, a positive length. -/
def enabled (s : WaveSettings α) : Bool :=
  s.mode != WaveMode.off && !(s.amplitude == 0) && decide (s.length > 0)

end WaveSettings

namespace WaveGains

variable {α : Type} [Scalar α]

/-- Unit gains. -/
def unit : WaveGains α := ⟨1, 1⟩

end WaveGains

namespace WaveState

variable {α : Type} [Scalar α]

/-- `2π`. -/
def twoPi : α := 2 * Scalar.pi

/-- A phase reduced into `[0, 2π)`. -/
def wrapTwoPi (rad : α) : α :=
  let w := Scalar.truncRem rad twoPi
  let w := if w < 0 then w + twoPi else w
  if w ≥ twoPi then 0 else w

/-- Zero phase and no disturbance. -/
def initial : WaveState α := ⟨0, Vec3.zero, 0, 0⟩

/-- Advances the wave by `dt` for the attitude `att` and the earth-frame velocity. -/
def update (w : WaveState α) (gains : WaveGains α) (dt : α) (s : WaveSettings α)
    (armed : Bool) (att : Euler α) (velocity : Vec3 α) : WaveState α :=
  if !armed || !s.enabled then
    ⟨0, (⟨-att.roll, -att.pitch, 0⟩ : Vec3 α).scale gains.angle, -velocity.z * gains.heave, 0⟩
  else
    let heading := s.direction * Scalar.pi / 180
    let sh := Scalar.sin heading
    let ch := Scalar.cos heading
    let boatSpeed := velocity.x * ch + velocity.y * sh
    let distance := (s.speed - boatSpeed) * dt
    let phase := wrapTwoPi (w.phase + distance / s.length * twoPi)
    let slope := (s.amplitude * 0.5) * (twoPi / s.length) * Scalar.cos phase
    let angle := Scalar.atan slope
    let rel := heading - att.yaw
    let sd := Scalar.sin rel
    let cd := Scalar.cos rel
    let gyro : Vec3 α := ⟨(sd * angle - att.roll) * gains.angle,
      (cd * angle - att.pitch) * gains.angle, 0⟩
    let heave := if s.mode == WaveMode.heave then (slope - velocity.z) * gains.heave else 0
    ⟨phase, gyro, heave, slope⟩

end WaveState

end SailSim
