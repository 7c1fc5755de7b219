/-!
# Run progress

`Progress` is where the current run stands, for log lines and gauges: the run's id, empty
between runs, the last completed step, its simulated time and the speed over ground. A run
starts it at step zero and clears the id when it ends; the step, time and speed of the last
step stay readable afterwards.
-/

namespace SailSim

/-- The position of the current run. -/
structure Progress where
  runId : String := ""
  step : Nat := 0
  simTime : Float := 0
  speed : Float := 0
  deriving Repr

namespace Progress

/-- Progress at the start of the run `runId`. -/
def start (_p : Progress) (runId : String) : Progress := ⟨runId, 0, 0, 0⟩

/-- Progress after the run ended: no active run. -/
def stop (p : Progress) : Progress := { p with runId := "" }

/-- Progress after the step `step` completed at `simTime` with speed `speed`. -/
def advance (p : Progress) (step : Nat) (simTime speed : Float) : Progress :=
  { p with step, simTime, speed }

/-- The log attributes of the active run (run, step, simulated time), none between runs. -/
def attrs (p : Progress) : List (String × String) :=
  if p.runId.isEmpty then [] else
    [("run", p.runId), ("step", toString p.step), ("simTime", toString p.simTime)]

end Progress

end SailSim
