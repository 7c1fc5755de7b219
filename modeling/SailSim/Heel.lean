import SailSim.Scalar
import SailSim.Text.Blank
import SailSim.Text.Quote

/-!
# Heel

The sail's side force rolls the boat. Under the `direct` policy the roll angle is set every
step to `heelForce · gain` degrees, bounded to ±45°. Under the `torque` policy a keel balances
the sail's overturning moment with its righting moment and a damping term, and the roll rate
is integrated from the resulting angular acceleration; it is held at zero while disarmed.
-/

namespace SailSim

/-- The heel model in use. -/
inductive HeelPolicy where
  /-- The roll angle follows the heel force. -/
  | direct
  /-- The roll rate is integrated from a keel torque balance. -/
  | torque
  deriving Repr, BEq, DecidableEq

namespace HeelPolicy

/-- The policy with configuration code `n`: 0 is direct, 1 torque. -/
def ofCode? : Int → Option HeelPolicy
  | 0 => some .direct
  | 1 => some .torque
  | _ => none

/-- The configuration code. -/
def code : HeelPolicy → Int
  | .direct => 0
  | .torque => 1

/-- The name of configuration code `n`, `Policy(n)` for codes of no policy. -/
def codeName (n : Int) : String :=
  match ofCode? n with
  | some .direct => "direct"
  | some .torque => "torque"
  | none => "Policy(" ++ toString n ++ ")"

/-- The policy named by a setting word, case and surrounding blanks ignored. -/
def parse? (s : String) : Option HeelPolicy :=
  match Text.asciiLower (Text.trimBlank s) with
  | "" | "direct" | "angle" | "direct_angle" => some .direct
  | "torque" => some .torque
  | _ => none

/-- The message for a setting word that names no policy. -/
def unknownMessage (s : String) : String := "unknown heel policy " ++ Text.quote s

/-- The fault of stepping a model whose policy code names no policy. -/
def unknownFault (n : Int) : String := "heel: unknown policy " ++ toString n

end HeelPolicy

/-- Standard gravity in m/s². -/
def standardGravity {α : Type} [Scalar α] : α := 9.80665

/-- The keel geometry of the torque balance. -/
structure Keel (α : Type) where
  /-- Height of the sail's centre of effort, m. -/
  centerOfEffort : α
  /-- kg. -/
  mass : α
  /-- m. -/
  depth : α
  /-- m. -/
  chord : α
  damping : α
  /-- m/s². -/
  gravity : α

namespace Keel

variable {α : Type} [Scalar α]

/-- A small model-boat keel. -/
def default : Keel α := ⟨0.5, 1, 0.5, 0.1, 50, standardGravity⟩

/-- The roll moment of inertia of the keel as a point mass. -/
def inertia (k : Keel α) : α := k.mass * k.depth * k.depth

/-- The roll acceleration in rad/s² from the heel force, roll angle and roll rate; zero
while disarmed or for a keel without inertia. -/
def angularAccel (k : Keel α) (heelForce roll rollRate : α) (armed : Bool) : α :=
  if !armed then 0
  else
    let inertia := k.inertia
    if inertia ≤ 0 then 0
    else
      let overturning := heelForce * k.centerOfEffort * Scalar.cos roll
      let righting := -k.mass * k.gravity * k.depth * Scalar.sin roll
      let damping := -k.depth * k.depth * k.chord * rollRate * k.damping
      (overturning + righting + damping) / inertia

end Keel

/-- The direct-policy roll in radians for a heel force and a gain in degrees per newton,
bounded to ±45°. -/
def heelAngle {α : Type} [Scalar α] (heelForce gain : α) : α :=
  let deg := Scalar.min (Scalar.max (heelForce * gain) (-45)) 45
  deg * Scalar.pi / 180

/-- The heel state carried between steps. -/
structure HeelState (α : Type) where
  /-- Torque policy roll rate, rad/s. -/
  rollRate : α
  /-- Last torque policy acceleration, rad/s². -/
  accel : α

namespace HeelState

variable {α : Type} [Scalar α]

/-- At rest. -/
def rest : HeelState α := ⟨0, 0⟩

/-- Advances the heel model by `dt`; the first component is the roll rate fed to the
attitude integration, zero under the direct policy. -/
def step (h : HeelState α) (policy : HeelPolicy) (keel : Keel α)
    (heelForce roll dt : α) (armed : Bool) : α × HeelState α :=
  match policy with
  | .direct => (0, h)
  | .torque =>
    let accel := keel.angularAccel heelForce roll h.rollRate armed
    let rate := h.rollRate + accel * dt
    let rate := if armed then rate else 0
    (rate, ⟨rate, accel⟩)

end HeelState

end SailSim
