import SailSim.Run.Basic
import SailSim.Telemetry.Meter

/-!
# Fanning samples out to sinks

A `Dispatcher` hands every published sample to its sinks in registration order. A sink is
either direct, handled while publishing, or queued: the sample goes into the sink's queue of
fixed capacity and the sink's consumer handles queued samples in order. A full queue either
takes the sample anyway (a blocking sink) or drops it with the error `queue full: <name>`.
Once the dispatcher is closed, queued sinks refuse samples with
`dispatcher closed: <name>`; direct sinks keep taking them.

The sinks' handlers live outside the dispatcher, in a state `σ`: `Handlers.handle` runs the
handler of one registration on a sample, and `Handlers.stalled` says whether a consumer is
busy and leaves its queue alone. Every handled sample is counted as processed or failed, and
every dropped sample as dropped.

Registering a name again replaces that sink in its place. A queued sink replaced by another
queued sink has its queue closed: its consumer finishes the samples left in it. Closing
closes every queue and waits until every consumer has finished it.
-/

namespace SailSim

/-- How a sink receives samples. -/
inductive Delivery where
  /-- Handled while publishing. -/
  | direct
  /-- Through a queue; when it is full, a blocking sink still takes the sample and any other
  drops it. -/
  | queued (capacity : Nat) (blocking : Bool)
  deriving Repr, BEq

/-- A registered sink: its name, the registration handling it and how it receives samples. -/
structure SinkEntry where
  name : String
  handler : Nat
  delivery : Delivery
  deriving Repr

/-- The queue of a queued sink with its consumer. -/
structure Backlog where
  name : String
  handler : Nat
  /-- Samples waiting, oldest first. -/
  pending : List StepSample
  /-- Whether the queue is the one its name currently stands for. -/
  current : Bool

/-- The handlers of the registrations, over an outside state `σ`. -/
structure Handlers (σ : Type) where
  /-- Runs the handler of a registration on a sample: the new state and an error, if any. -/
  handle : σ → Nat → StepSample → σ × Option String
  /-- Whether the consumer of a registration is busy and takes nothing from its queue. -/
  stalled : σ → Nat → Bool

/-- Sinks, their queues and the dispatcher's own counts. -/
structure Dispatcher where
  sinks : Array SinkEntry := #[]
  backlogs : Array Backlog := #[]
  closed : Bool := false
  /-- The number of registrations so far; the next one gets this number. -/
  registrations : Nat := 0
  readings : Telemetry.Readings := {}

namespace Dispatcher

variable {σ : Type}

/-- The counted handling of one sample by a registration. -/
def handleCounted (h : Handlers σ) (d : Dispatcher) (s : σ) (handler : Nat)
    (sample : StepSample) : Dispatcher × σ × Option String :=
  let (s, err) := h.handle s handler sample
  let name := if err.isSome then "dispatcher.samples.failed" else "dispatcher.samples.processed"
  ({ d with readings := d.readings.add name 1 }, s, err)

/-- A consumer handling its queue from the front until it stalls or the queue is empty. -/
def consume (h : Handlers σ) (d : Dispatcher) (s : σ) (handler : Nat) :
    List StepSample → Dispatcher × σ × List StepSample
  | [] => (d, s, [])
  | x :: xs =>
    if h.stalled s handler then (d, s, x :: xs)
    else
      let (d, s, _) := handleCounted h d s handler x
      consume h d s handler xs

/-- Every consumer that is not stalled handles what is in its queue. -/
def drain (h : Handlers σ) (d : Dispatcher) (s : σ) : Dispatcher × σ :=
  let step (acc : Dispatcher × σ) (i : Nat) : Dispatcher × σ :=
    let (d, s) := acc
    match d.backlogs[i]? with
    | none => (d, s)
    | some b =>
      let (d, s, rest) := consume h d s b.handler b.pending
      ({ d with backlogs := d.backlogs.set! i { b with pending := rest } }, s)
  (List.range d.backlogs.size).foldl step (d, s)

/-- The sink names in publish order. -/
def sinkNames (d : Dispatcher) : List String := d.sinks.toList.map (·.name)

/-- Whether a sink is registered under `name`. -/
def hasSink (d : Dispatcher) (name : String) : Bool := d.sinks.any (·.name == name)

/-- Registers a sink under `name`, replacing one of that name in its place. The result
carries the number of the new registration. -/
def register (h : Handlers σ) (d : Dispatcher) (s : σ) (name : String) (delivery : Delivery) :
    Dispatcher × σ × Nat :=
  let handler := d.registrations
  let d := { d with registrations := handler + 1 }
  let (d, s) := match delivery with
    | .direct => (d, s)
    | .queued _ _ =>
      -- the queue that stood for the name stops being current; unless the dispatcher is
      -- closed it is closed too, and its consumer finishes it
      let d := { d with backlogs := d.backlogs.map fun (b : Backlog) =>
        if b.current && b.name == name then { b with current := false } else b }
      let d := { d with backlogs := d.backlogs.push ⟨name, handler, [], true⟩ }
      drain h d s
  let entry : SinkEntry := ⟨name, handler, delivery⟩
  let d := match d.sinks.findIdx? (fun (e : SinkEntry) => e.name == name) with
    | some i => { d with sinks := d.sinks.set! i entry }
    | none => { d with sinks := d.sinks.push entry }
  (d, s, handler)

/-- Offers a sample to one sink: the dispatcher and state after, and the sink's error. -/
def offer (h : Handlers σ) (d : Dispatcher) (s : σ) (sample : StepSample) (e : SinkEntry) :
    Dispatcher × σ × Option String :=
  match e.delivery with
  | .direct => handleCounted h d s e.handler sample
  | .queued capacity blocking =>
    if d.closed then (d, s, some ("dispatcher closed: " ++ e.name))
    else
      match (d.backlogs.findIdx? fun (b : Backlog) => b.handler == e.handler).bind
          fun i => (d.backlogs[i]?).map (i, ·) with
      | none => (d, s, some ("sink replaced: " ++ e.name))
      | some (i, b) =>
        if b.pending.length < capacity || blocking then
          let d := { d with backlogs := d.backlogs.set! i { b with pending := b.pending ++ [sample] } }
          let (d, s) := drain h d s
          (d, s, none)
        else
          ({ d with readings := d.readings.add "dispatcher.samples.dropped" 1 }, s,
            some ("queue full: " ++ e.name))

/-- Publishes a sample to every sink in order. The errors are `<name>: <error>`, one line
per failing sink, none when every sink took the sample. -/
def publish (h : Handlers σ) (d : Dispatcher) (s : σ) (sample : StepSample) :
    Dispatcher × σ × Option String :=
  let (d, s, errs) := d.sinks.foldl (fun (acc : Dispatcher × σ × List String) e =>
    let (d, s, errs) := acc
    let (d, s, err) := offer h d s sample e
    (d, s, match err with
      | some m => errs ++ [e.name ++ ": " ++ m]
      | none => errs)) (d, s, [])
  (d, s, if errs.isEmpty then none else some ("\n".intercalate errs))

/-- Closes the dispatcher: queued sinks stop taking samples, and closing waits until every
consumer, busy or not, has finished its queue. Closing twice changes nothing. -/
def close (h : Handlers σ) (d : Dispatcher) (s : σ) : Dispatcher × σ :=
  if d.closed then (d, s) else drain { h with stalled := fun _ _ => false } { d with closed := true } s

/-- What the queue size callback observes: the length of each current queue. -/
def queueSizes (d : Dispatcher) : List (String × Nat) :=
  d.backlogs.toList.filterMap fun (b : Backlog) => if b.current then some (b.name, b.pending.length) else none

end Dispatcher

end SailSim
