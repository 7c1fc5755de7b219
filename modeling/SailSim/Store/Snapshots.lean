import SailSim.Store.File

/-!
# Snapshots taken by several goroutines

A store that keeps its database in memory writes a snapshot of it on a ticker and again when a
run ends, each in its own goroutine and with no lock between them. A snapshot is four calls,
each made at once: making the directory, looking at the path, removing the entry found there,
and vacuuming the database into the path. The calls of different snapshots, and the store's own
writes to the database, interleave in any order.

* `DumpPhase` : the call a snapshot makes next, or its answer once it has finished.
* `Snapshots` : the disk, the database, the path the snapshots go to, and where each goroutine's
  snapshot stands.
* `Snapshots.step` : one event. A goroutine starts a snapshot, or makes the next call of the one
  it is taking, or the store writes the database. A snapshot that finishes is reported with its
  answer and the database as it was when it finished.
-/

namespace SailSim.Store

/-- The call a snapshot makes next, or how it ended. -/
inductive DumpPhase where
  /-- No snapshot under way. -/
  | idle
  /-- About to make the directory. -/
  | mkdir
  /-- The directory made: about to look at the path. -/
  | look
  /-- An entry was found at the path: about to remove it. -/
  | remove
  /-- About to vacuum the database into the path. -/
  | vacuum
  /-- Finished, with its answer. -/
  | done (result : Except String Unit)

/-- A finished snapshot: the goroutine that took it, its answer, and the database as it was
when it finished, which is the one it vacuumed when it got that far. -/
structure DumpDone where
  thread : Nat
  result : Except String Unit
  db : Database

/-- The disk, the database, the path snapshots go to, and where each goroutine's snapshot
stands. -/
structure Snapshots where
  disk : Disk
  db : Database
  path : String
  phases : Nat → DumpPhase

/-- What happens next. -/
inductive SnapshotEvent where
  /-- Goroutine `g` starts a snapshot, unless it is taking one. -/
  | start (g : Nat)
  /-- Goroutine `g` makes the next call of its snapshot. -/
  | next (g : Nat)
  /-- The store writes the database. -/
  | write (db : Database)

namespace Snapshots

/-- The snapshots with goroutine `g`'s at `p`. -/
def setPhase (s : Snapshots) (g : Nat) (p : DumpPhase) : Nat → DumpPhase :=
  fun u => if u = g then p else s.phases u

/-- Goroutine `g`'s snapshot ends with `result`, and is reported. -/
def finish (s : Snapshots) (g : Nat) (result : Except String Unit) :
    Snapshots × Option DumpDone :=
  ({ s with phases := s.setPhase g (.done result) }, some ⟨g, result, s.db⟩)

/-- Goroutine `g` makes the next call of its snapshot. -/
def next (s : Snapshots) (g : Nat) : Snapshots × Option DumpDone :=
  match s.phases g with
  | .mkdir =>
    if s.path.isEmpty then s.finish g (.error "sqlite file path not set") else
    match dumpDirectory s.disk s.path with
    | .ok disk => ({ s with disk, phases := s.setPhase g .look }, none)
    | .error e => s.finish g (.error e)
  | .look => match s.disk.stat s.path with
    | .ok _ => ({ s with phases := s.setPhase g .remove }, none)
    | .error _ => ({ s with phases := s.setPhase g .vacuum }, none)
  | .remove => match removeOld s.disk s.path with
    | .ok disk => ({ s with disk, phases := s.setPhase g .vacuum }, none)
    | .error e => s.finish g (.error e)
  | .vacuum => match vacuumInto s.db s.disk s.path with
    | .ok disk => ({ s with disk } : Snapshots).finish g (.ok ())
    | .error e => s.finish g (.error e)
  | .idle | .done _ => (s, none)

/-- One event, with the snapshot it finished, if any. -/
def step (s : Snapshots) : SnapshotEvent → Snapshots × Option DumpDone
  | .start g => match s.phases g with
    | .idle | .done _ => ({ s with phases := s.setPhase g .mkdir }, none)
    | _ => (s, none)
  | .next g => s.next g
  | .write db => ({ s with db }, none)

/-- Events one after another; the snapshots are reported in the order they finished. -/
def run : Snapshots → List SnapshotEvent → Snapshots × List DumpDone
  | s, [] => (s, [])
  | s, e :: es =>
    let r := s.step e
    let rest := run r.1 es
    (rest.1, r.2.toList ++ rest.2)

end Snapshots

end SailSim.Store
