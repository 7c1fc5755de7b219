/-!
# Metric instruments and their readings

The program counts what it does through named instruments: counters that are added to,
histograms that record values, gauges read through callbacks, and callbacks registered for
several instruments at once. A meter may refuse to create an instrument; the program then
stops with what it was creating, `creating steps counter: <refusal>`.

`Readings` is what a meter that keeps everything holds: the sum of every counter that was
added to, the number of values every histogram recorded, the value each gauge read and what
the registered callbacks observed. An instrument that was never used has no entry.
-/

namespace SailSim.Telemetry

/-- An instrument, or a callback registration, that the program asks a meter for. -/
structure Registration where
  /-- The instrument's name, or `callback` for a callback registration. -/
  name : String
  /-- What the program is doing, as its error says. -/
  purpose : String
  deriving Repr

/-- The runner's instruments, in the order it creates them. -/
def runnerRegistrations : List Registration := [
  ⟨"sailsim.steps", "creating steps counter"⟩,
  ⟨"sailsim.step.duration", "creating step duration histogram"⟩,
  ⟨"sailsim.speed", "creating speed gauge"⟩]

/-- The dispatcher's instruments, in the order it creates them. -/
def dispatcherRegistrations : List Registration := [
  ⟨"dispatcher.queue.size", "creating queue size gauge"⟩,
  ⟨"callback", "registering queue callback"⟩,
  ⟨"dispatcher.samples.processed", "creating processed counter"⟩,
  ⟨"dispatcher.samples.dropped", "creating dropped counter"⟩,
  ⟨"dispatcher.samples.failed", "creating failed counter"⟩]

/-- Registers in order with a meter that answers each name with a refusal or nothing; the
first refusal stops registration and is reported after its purpose. -/
def registerAll (refusal : String → Option String) : List Registration → Except String Unit
  | [] => pure ()
  | r :: rs =>
    match refusal r.name with
    | some why => throw (r.purpose ++ ": " ++ why)
    | none => registerAll refusal rs

/-- A name-keyed table in first-use order. -/
abbrev Table (α : Type) := List (String × α)

/-- The table with `f` applied to the entry under `name`, or with a new entry `f start`. -/
def Table.modify {α : Type} (t : Table α) (name : String) (start : α) (f : α → α) : Table α :=
  if t.any (·.1 == name) then t.map fun e => if e.1 == name then (e.1, f e.2) else e
  else t ++ [(name, f start)]

/-- What a recording meter holds. -/
structure Readings where
  counters : Table Int := []
  histogramRecords : Table Nat := []
  gauges : Table Float := []
  observed : Table Int := []
  deriving Repr

namespace Readings

/-- The readings after adding `n` to the counter `name`. -/
def add (r : Readings) (name : String) (n : Int) : Readings :=
  { r with counters := r.counters.modify name 0 (· + n) }

/-- The readings after the histogram `name` recorded one more value. -/
def record (r : Readings) (name : String) : Readings :=
  { r with histogramRecords := r.histogramRecords.modify name 0 (· + 1) }

/-- The readings after the gauge `name` read `v`. -/
def gauge (r : Readings) (name : String) (v : Float) : Readings :=
  { r with gauges := r.gauges.modify name 0 fun _ => v }

/-- The readings after a callback observed `v` for `key`. -/
def observe (r : Readings) (key : String) (v : Int) : Readings :=
  { r with observed := r.observed.modify key 0 fun _ => v }

/-- Both readings together: counters and histograms summed, later gauges and observations
winning. -/
def merge (a b : Readings) : Readings :=
  let a := b.counters.foldl (fun r (k, v) => r.add k v) a
  let a := b.histogramRecords.foldl (fun r (k, v) =>
    { r with histogramRecords := r.histogramRecords.modify k 0 (· + v) }) a
  let a := b.gauges.foldl (fun r (k, v) => r.gauge k v) a
  b.observed.foldl (fun r (k, v) => r.observe k v) a

end Readings

end SailSim.Telemetry
