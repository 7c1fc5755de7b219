/-!
# Servo outputs

A `Controls` value is one snapshot of the autopilot's sixteen servo outputs, raw pulse widths
in microseconds. The sailboat reads four channels: steering, throttle, mainsheet and wing.
-/

namespace SailSim

/-- Sixteen servo pulse widths. -/
structure Controls where
  servos : Vector UInt16 16
  deriving Repr, BEq

namespace Controls

/-- The rudder channel. -/
def steeringChannel : Fin 16 := 0
/-- The motor channel of motor-sailer frames. -/
def throttleChannel : Fin 16 := 2
/-- The mainsheet winch channel. -/
def mainsailChannel : Fin 16 := 3
/-- The wing sail actuator channel. -/
def wingChannel : Fin 16 := 4

/-- Shortest pulse of a servo, in microseconds. -/
def pwmMin : Nat := 1000
/-- Centre pulse of a servo. -/
def pwmTrim : Nat := 1500
/-- Longest pulse of a servo. -/
def pwmMax : Nat := 2000

/-- The pulse width of channel `i`. -/
def get (c : Controls) (i : Fin 16) : UInt16 := c.servos.get i

/-- Every channel at trim except the mainsheet, which is fully eased. -/
def neutral : Controls :=
  ⟨(Vector.replicate 16 (1500 : UInt16)).set 3 2000⟩

/-- Channel `i` set to `v`. -/
def set (c : Controls) (i : Fin 16) (v : UInt16) : Controls := ⟨c.servos.set i v⟩

theorem get_eq_getElem (c : Controls) (i : Fin 16) : c.get i = c.servos[i.val] := rfl

@[simp] theorem get_set (c : Controls) (i j : Fin 16) (v : UInt16) :
    (c.set i v).get j = if i = j then v else c.get j := by
  simp only [get_eq_getElem, set, Vector.getElem_set, Fin.val_inj]

/-- All channels zero. -/
def zero : Controls := ⟨Vector.replicate 16 0⟩

/-- The first sixteen values of a list, missing channels zero. -/
def ofList (vs : List UInt16) : Controls :=
  ⟨Vector.ofFn fun i => vs.getD i.val 0⟩

/-- The channels in order. -/
def toList (c : Controls) : List UInt16 := c.servos.toList

end Controls

end SailSim
