import SailSim.Run.Json
import SailSim.Json.Write
import SailSim.Disk.Basic

/-!
# Run status snapshots

The monitor reads the progress of the active run at given instants and derives two rates
from the previous snapshot of the same run: steps per second and simulated seconds per
second. A snapshot with no active run (an empty run id) reports nothing and leaves the
previous snapshot alone. The rates are computed only when the previous snapshot belongs to
the same run, was not taken at the zero instant, and the time between them is positive;
otherwise they are zero.

Steps are 64-bit words, so a step count that goes back within one run wraps around before the
difference is divided. Time differences are nanoseconds held in a signed 64-bit word, clamped
to its range.

A monitor service (`Monitor.Service`) runs a status loop that takes a snapshot at every tick of
its interval and writes each one of an active run to the status file. Starting a loop that runs,
or stopping one that is stopped, changes nothing; stopping waits for the loop's last write.
-/

namespace SailSim

/-- What a monitor reports at one instant. -/
structure Status where
  time : Instant
  runId : String
  step : UInt64
  simTime : Float
  speed : Float
  stepsPerSec : Float := 0
  realTime : Float := 0
  deriving Repr

/-- The monitor's memory: the last snapshot of an active run and when it was taken. -/
structure Monitor where
  last : Option Status := none
  deriving Repr

/-- The status as the status file holds it. -/
def Status.toJson (st : Status) : Json.Encoded :=
  Json.members [("time", st.time.toJson), ("runId", .ok (.string st.runId)),
    ("step", .ok (Json.nat st.step.toNat)), ("simTime", Json.finite st.simTime),
    ("speed", Json.finite st.speed), ("stepsPerSec", Json.finite st.stepsPerSec),
    ("realTime", Json.finite st.realTime)]

namespace Monitor

/-- Nanoseconds from `a` to `b`, clamped to a signed 64-bit word. -/
def elapsedNanos (a b : Instant) : Int :=
  let d := (b.unix - a.unix) * 1000000000 + (b.nanos - a.nanos : Int)
  max (-(Int.pow 2 63)) (min (Int.pow 2 63 - 1) d)

/-- The snapshot at `now` of a run reporting `runId`, `step`, `simTime` and `speed`, whether
a run is active, and the monitor after it. -/
def snapshot (m : Monitor) (now : Instant) (runId : String) (step : UInt64)
    (simTime speed : Float) : Status × Bool × Monitor :=
  let st : Status := ⟨now, runId, step, simTime, speed, 0, 0⟩
  if runId.isEmpty then (st, false, m)
  else
    let st := match m.last with
      | some prev =>
        if prev.runId == runId && !prev.time.isZero then
          let dt := Duration.seconds (elapsedNanos prev.time now)
          if dt > 0 then
            { st with stepsPerSec := (step - prev.step).toNat.toFloat / dt,
                      realTime := (simTime - prev.simTime) / dt }
          else st
        else st
      | none => st
    (st, true, { last := some st })

/-- What the source reports at one call: the instant of the call and the active run's id
(empty when none is active), step, simulated time and speed. -/
structure Reading where
  now : Instant
  runId : String
  step : UInt64
  simTime : Float
  speed : Float

/-- The snapshots of successive calls, in order, and the monitor after them. The status loop
makes one call a tick. -/
def run (m : Monitor) : List Reading → List (Status × Bool) × Monitor
  | [] => ([], m)
  | r :: rs =>
    let s := m.snapshot r.now r.runId r.step r.simTime r.speed
    let rest := run s.2.2 rs
    ((s.1, s.2.1) :: rest.1, rest.2)

/-- A monitor service: the monitor, the status file it writes (none when the path is empty),
and whether its status loop runs. -/
structure Service where
  monitor : Monitor := {}
  statusPath : String := ""
  running : Bool := false

namespace Service

/-- Whether the status loop runs. -/
def isRunning (s : Service) : Bool := s.running

/-- Starts the status loop; one that runs goes on as it was. -/
def start (s : Service) : Service := { s with running := true }

/-- Stops the status loop once its last write is done; one that is stopped stays stopped. -/
def stop (s : Service) : Service := { s with running := false }

/-- A tick of the status loop: a snapshot of the source's reading, written to the status file
as indented JSON when a run is active. A write that fails is only logged, and a stopped loop
does not tick. -/
def tick (s : Service) (r : Reading) (disk : Disk) : Service × Disk :=
  if !s.running then (s, disk) else
  let (st, active, monitor) := s.monitor.snapshot r.now r.runId r.step r.simTime r.speed
  let s := { s with monitor }
  if !active || s.statusPath.isEmpty then (s, disk) else
  match st.toJson with
  | .error _ => (s, disk)
  | .ok j => (s, (disk.writeFile s.statusPath (Json.pretty "" j ++ "\n").toUTF8).toOption.getD disk)

end Service

end Monitor

end SailSim
