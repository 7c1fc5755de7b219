import Mathlib
import SailSim.Store.Snapshots
import SailSim.Storage.Recorder
import SailSim.Proofs.Disk.ReadBack
import SailSim.Proofs.SampleLedger

/-!
# What a snapshot leaves at its path

A snapshot of the in-memory database replaces the file at its path in three calls: it makes the
directory, removes the entry it finds at the path, and vacuums the database into the path. The
replacement is not atomic. Between the removal and the vacuum nothing is at the path, and a
vacuum that fails, on a closed database say, leaves nothing there at all.

## Main results

* `Disk.Grows` : what making directories does to a disk: directories are added where nothing
  was, and every node already there stays.
* `dumpToDisk_outcome` : what one snapshot leaves. A snapshot that succeeds leaves the database's
  bytes at its path. One that fails on the path, the directory or the removal leaves what was
  at the path where it was. One that fails on the vacuum leaves nothing at the path.
* `Snapshots.step_diskStep` : one event of snapshots taken at once by several goroutines keeps
  the disk, makes the directory, removes the entry at the path, or is a vacuum that finishes a
  snapshot (`DiskStep`).
* `Snapshots.run_entry` : over any interleaving, a file at the path is the snapshot of the last
  snapshot that succeeded, or the one that was there at the start when none did.
* `Snapshots.solo_snapshot` : a snapshot that no other event interrupts is `dumpToDisk`.
* `Recorder.endRun_snapshot` : a run that ends with success on a database with a dump path
  leaves at the path the snapshot of the database with the run and all its samples stored.
-/

namespace SailSim

namespace Disk

/-- `d'` is `d` with directories added where nothing was, in the same working directory. -/
structure Grows (d d' : Disk) : Prop where
  cwd : d'.cwd = d.cwd
  node : ∀ x, d'.get? x = d.get? x ∨ (d.get? x = none ∧ d'.get? x = some .dir)

theorem Grows.refl (d : Disk) : Grows d d := ⟨rfl, fun _ => .inl rfl⟩

theorem Grows.trans {d₁ d₂ d₃ : Disk} (h₁ : Grows d₁ d₂) (h₂ : Grows d₂ d₃) : Grows d₁ d₃ where
  cwd := h₂.cwd.trans h₁.cwd
  node x := by
    rcases h₂.node x with h | ⟨hnone, hdir⟩
    · rw [h]
      exact h₁.node x
    · rcases h₁.node x with h | ⟨-, h⟩
      · exact .inr ⟨h ▸ hnone, hdir⟩
      · rw [h] at hnone
        cases hnone

theorem Grows.resolve {d d' : Disk} (h : Grows d d') (p : String) :
    d'.resolve p = d.resolve p := by
  simp [Disk.resolve, h.cwd]

/-- A node that was found is found again, with every directory above it. -/
theorem Grows.lookup {d d' : Disk} (h : Grows d d') {a : String} {n : Node}
    (ha : d.lookup a = .ok n) : d'.lookup a = .ok n := by
  obtain ⟨hanc, hlong, hget⟩ := lookup_eq_ok.1 ha
  -- a node that was there is still there, unchanged
  have hkeep : ∀ {b : String} {m : Node}, d.get? b = some m → d'.get? b = some m := by
    intro b m hb
    rcases h.node b with h' | ⟨hnone, -⟩
    · rw [h', hb]
    · rw [hb] at hnone
      cases hnone
  exact lookup_eq_ok.2 ⟨fun b hb => ⟨(hanc b hb).1, hkeep (hanc b hb).2⟩, hlong, hkeep hget⟩

/-- A file the grown disk holds was there before. -/
theorem Grows.file {d d' : Disk} (h : Grows d d') {x : String} {data : ByteArray}
    (hx : d'.get? x = some (.file data)) : d.get? x = some (.file data) := by
  rcases h.node x with h' | ⟨-, hdir⟩
  · rwa [← h']
  · rw [hdir] at hx
    cases hx

/-- Making a directory sets a node where nothing was. -/
theorem mkdir_grows {d d' : Disk} {p : String} (hcwd : Path.isAbs d.cwd = true)
    (h : d.mkdir p = .ok d') : Grows d d' := by
  obtain ⟨⟨e, hlook, hlong⟩, hready, rfl⟩ := mkdir_cases h
  obtain ⟨es, hes, hres⟩ := Path.resolve_eq_ofElements hcwd p
  change d.resolve p = Path.ofElements es at hres
  -- the root is always found, so the new directory is not the root
  have hroot : d.resolve p ≠ "/" := by
    intro h
    rw [h, lookup_root] at hlook
    cases hlook
  have hne : es ≠ [] := by
    rintro rfl
    exact hroot hres
  -- every directory above it is there and its name fits, so it was not found because nothing
  -- is there
  have hnone : d.get? (d.resolve p) = none := by
    rw [hres] at hready hlook ⊢
    have hanc := ancestors_of_parentReady hes hne hready
    cases hg : d.get? (Path.ofElements es) with
    | none => rfl
    | some n =>
      rw [lookup_eq_ok.2 ⟨hanc, not_tooLong_of_lookup hanc hlook hlong, hg⟩] at hlook
      cases hlook
  refine ⟨by simp, fun x => ?_⟩
  rw [get?_put _ hroot]
  by_cases hx : x = d.resolve p
  · subst hx
    exact .inr ⟨hnone, by simp⟩
  · exact .inl (by simp [hx])

/-- The last call of making a directory: it is made, or it was one already. The answer of
`mkdir` comes in as `m`, so that the match on it is read without running `mkdir`. -/
theorem mkdir_or_isDir_grows {d d' : Disk} {p : String} {m : Except PathError Disk}
    (hcwd : Path.isAbs d.cwd = true)
    (h : (match m with
      | .ok d => pure d
      | .error e => if d.isDir p then pure d else .error e : Except PathError Disk) = .ok d')
    (hm : d.mkdir p = m) : Grows d d' := by
  cases m with
  | ok d₁ =>
    simp only [pure, Except.pure, Except.ok.injEq] at h
    exact h ▸ mkdir_grows hcwd hm
  | error e =>
    by_cases hdir : d.isDir p = true
    · simp only [hdir, if_true, pure, Except.pure, Except.ok.injEq] at h
      exact h ▸ Grows.refl d
    · simp [hdir] at h

/-- Making a directory and the ones above it adds directories where nothing was. -/
theorem mkdirAll_go_grows : ∀ (fuel : Nat) {d d' : Disk} (p : String),
    Path.isAbs d.cwd = true → mkdirAll.go fuel d p = .ok d' → Grows d d'
  | fuel, d, d', p, hcwd, h => by
    rw [mkdirAll.go] at h
    cases hstat : d.stat p with
    | ok n =>
      cases n with
      | dir =>
        simp only [hstat, Except.ok.injEq] at h
        exact h ▸ Grows.refl d
      | file data => simp [hstat] at h
    | error e =>
      simp only [hstat] at h
      -- the directories above come first, then this one
      cases fuel with
      | zero =>
        simp only [pure_bind] at h
        generalize hm : d.mkdir p = m at h
        exact mkdir_or_isDir_grows hcwd h hm
      | succ fuel =>
        by_cases hup : (Path.dir p != p && Path.dir p != "." && Path.dir p != "/") = true
        · simp only [hup, if_true] at h
          cases hgo : mkdirAll.go fuel d (Path.dir p) with
          | error e' => simp [hgo, bind, Except.bind] at h
          | ok d₁ =>
            simp only [hgo, bind, Except.bind] at h
            have h₁ := mkdirAll_go_grows fuel (Path.dir p) hcwd hgo
            generalize hm : d₁.mkdir p = m at h
            exact h₁.trans (mkdir_or_isDir_grows (h₁.cwd ▸ hcwd) h hm)
        · simp only [hup, Bool.false_eq_true, if_false, pure_bind] at h
          generalize hm : d.mkdir p = m at h
          exact mkdir_or_isDir_grows hcwd h hm

theorem mkdirAll_grows {d d' : Disk} {p : String} (hcwd : Path.isAbs d.cwd = true)
    (h : d.mkdirAll p = .ok d') : Grows d d' :=
  mkdirAll_go_grows _ p hcwd h

/-- Removing sets nothing where the removed node was, which is not the root. -/
theorem remove_eq_drop {d d' : Disk} {p : String} (h : d.remove p = .ok d') :
    d.resolve p ≠ "/" ∧ d' = d.drop (d.resolve p) := by
  unfold remove at h
  cases hl : d.lookup (d.resolve p) with
  | error e => simp [hl] at h
  | ok n =>
    cases n with
    | file data =>
      simp only [hl, Except.ok.injEq] at h
      refine ⟨fun hroot => ?_, h.symm⟩
      rw [hroot, lookup_root] at hl
      cases hl
    | dir =>
      -- only an empty directory other than the root is removed
      by_cases hc : (d.resolve p == "/" || !(d.children (d.resolve p)).isEmpty) = true
      · simp [hl, hc] at h
      · simp only [hl, hc, Bool.false_eq_true, if_false, Except.ok.injEq] at h
        refine ⟨fun hroot => hc (by simp [hroot]), h.symm⟩

theorem get?_drop (d : Disk) {a : String} (ha : a ≠ "/") (x : String) :
    (d.drop a).get? x = if x = a then none else d.get? x := by
  by_cases hroot : x = "/"
  · subst hroot
    simp [get?, Ne.symm ha]
  · by_cases hx : x = a
    · subst hx
      simp [get?, drop, hroot, List.find?_filter]
    · have hp : (fun e : String × Node => !decide (e.1 = a) && decide (e.1 = x)) =
          (fun e => e.1 == x) := by
        funext e
        by_cases he : e.1 = x
        · simp [he, hx]
        · simp [he]
      simp [get?, drop, hroot, hx, List.find?_filter, hp]

theorem stat_eq_ok {d : Disk} {p : String} {n : Node} :
    d.stat p = .ok n ↔ p.isEmpty = false ∧ d.lookup (d.resolve p) = .ok n := by
  unfold stat lookupPath
  cases hp : p.isEmpty
  · cases d.lookup (d.resolve p) <;> simp [Except.mapError]
  · simp [Except.mapError]

/-- What was found at a path is found there still. -/
theorem Grows.stat {d d' : Disk} (h : Grows d d') {p : String} {n : Node}
    (hp : d.stat p = .ok n) : d'.stat p = .ok n := by
  rw [stat_eq_ok] at hp ⊢
  exact ⟨hp.1, by rw [h.resolve]; exact h.lookup hp.2⟩

/-- Nothing is found where a node was dropped. -/
theorem stat_drop (d : Disk) {p : String} (hroot : d.resolve p ≠ "/") (n : Node) :
    (d.drop (d.resolve p)).stat p ≠ .ok n := by
  intro h
  obtain ⟨-, hl⟩ := stat_eq_ok.1 h
  have hget := (lookup_eq_ok.1 hl).2.2
  rw [show (d.drop (d.resolve p)).resolve p = d.resolve p from rfl, get?_drop d hroot,
    if_pos rfl] at hget
  cases hget

end Disk

namespace Store

open Disk

/-! ### The calls of one snapshot -/

/-- A call whose error is reworded succeeds exactly when the call does. -/
theorem mapError_eq_ok {ε ε' α : Type} {x : Except ε α} {f : ε → ε'} {a : α} :
    x.mapError f = .ok a ↔ x = .ok a := by
  cases x <;> simp [Except.mapError]

/-- A call whose error is reworded fails with the rewording of its own error. -/
theorem mapError_eq_error {ε ε' α : Type} {x : Except ε α} {f : ε → ε'} {e : ε'}
    (h : x.mapError f = .error e) : ∃ e₀, x = .error e₀ ∧ e = f e₀ := by
  cases x with
  | error e₀ =>
    simp only [Except.mapError, Except.error.injEq] at h
    exact ⟨e₀, rfl, h.symm⟩
  | ok a => cases h

theorem dumpDirectory_grows {disk disk' : Disk} {path : String}
    (hcwd : Path.isAbs disk.cwd = true) (h : dumpDirectory disk path = .ok disk') :
    Grows disk disk' :=
  mkdirAll_grows hcwd (mapError_eq_ok.1 h)

theorem dumpDirectory_error {disk : Disk} {path e : String}
    (h : dumpDirectory disk path = .error e) : ∃ m, e = "error creating dump directory: " ++ m := by
  obtain ⟨e₀, -, rfl⟩ := mapError_eq_error h
  exact ⟨_, rfl⟩

theorem removeOld_eq_drop {disk disk' : Disk} {path : String}
    (h : removeOld disk path = .ok disk') :
    disk.resolve path ≠ "/" ∧ disk' = disk.drop (disk.resolve path) :=
  remove_eq_drop (mapError_eq_ok.1 h)

theorem removeOld_error {disk : Disk} {path e : String} (h : removeOld disk path = .error e) :
    ∃ m, e = "error removing existing DB file: " ++ m := by
  obtain ⟨e₀, -, rfl⟩ := mapError_eq_error h
  exact ⟨_, rfl⟩

/-- A vacuum that succeeds wrote the database's bytes to the path. -/
theorem vacuumInto_ok {db : Database} {disk disk' : Disk} {path : String}
    (h : vacuumInto db disk path = .ok disk') : disk.writeFile path db.toBytes = .ok disk' := by
  unfold vacuumInto at h
  by_cases hc : db.closed = true
  · simp [hc] at h
  · simp only [hc, Bool.false_eq_true, if_false] at h
    -- the file found there, if any, was empty
    split at h
    · split at h
      · cases h
      · exact mapError_eq_ok.1 h
    · exact mapError_eq_ok.1 h

theorem vacuumInto_error {db : Database} {disk : Disk} {path e : String}
    (h : vacuumInto db disk path = .error e) : ∃ m, e = "error dumping memory DB to disk: " ++ m := by
  unfold vacuumInto at h
  by_cases hc : db.closed = true
  · simp only [hc, if_true, Except.error.injEq] at h
    exact ⟨"sql: database is closed", by rw [← h]; rfl⟩
  · simp only [hc, Bool.false_eq_true, if_false] at h
    split at h
    · split at h
      · simp only [Except.error.injEq] at h
        exact ⟨"SQL logic error: output file already exists (1)", by rw [← h]; rfl⟩
      · obtain ⟨e₀, -, rfl⟩ := mapError_eq_error h
        exact ⟨_, rfl⟩
    · obtain ⟨e₀, -, rfl⟩ := mapError_eq_error h
      exact ⟨_, rfl⟩

/-! ### One snapshot -/

/-- How a snapshot at `path` can fail, with the error it answers and the disk it leaves: on an
empty path or on making the directory, changing nothing; on removing what it found at the path,
with that still there and only directories added; or on the vacuum, with nothing left at the
path. -/
inductive DumpFailure (disk : Disk) (path : String) : String → Disk → Prop
  | noPath : path.isEmpty = true → DumpFailure disk path "sqlite file path not set" disk
  | directory (m : String) : DumpFailure disk path ("error creating dump directory: " ++ m) disk
  | removal (m : String) {after : Disk} : Grows disk after → (∃ n, after.stat path = .ok n) →
      DumpFailure disk path ("error removing existing DB file: " ++ m) after
  | vacuum (m : String) {after : Disk} : (∀ n, after.stat path ≠ .ok n) →
      DumpFailure disk path ("error dumping memory DB to disk: " ++ m) after

/-- A failed snapshot leaves at its path what was there, unless it failed on the vacuum, which
leaves nothing there. -/
theorem DumpFailure.keeps {disk after : Disk} {path e : String}
    (h : DumpFailure disk path e after) :
    (∃ m, e = "error dumping memory DB to disk: " ++ m ∧ ∀ n, after.stat path ≠ .ok n) ∨
      ∀ n, disk.stat path = .ok n → after.stat path = .ok n := by
  cases h with
  | noPath _ => exact .inr fun _ hn => hn
  | directory m => exact .inr fun _ hn => hn
  | removal m hg _ => exact .inr fun _ hn => hg.stat hn
  | vacuum m hnone => exact .inl ⟨m, rfl, hnone⟩

/-- A vacuum that succeeds leaves the database's bytes at the path. -/
theorem vacuumInto_stat {db : Database} {disk disk' : Disk} {path : String}
    (hcwd : Path.isAbs disk.cwd = true) (h : vacuumInto db disk path = .ok disk') :
    disk'.stat path = .ok (.file db.toBytes) := by
  have hw := vacuumInto_ok h
  exact stat_eq_ok.2 ⟨(writeFile_cases hw).1, lookup_writeFile hcwd hw⟩

/-- What a snapshot of `db` at `path` on `disk` may answer and leave: on success the database's
bytes at the path, on an error one of the failures of `DumpFailure`. -/
def DumpOutcome (db : Database) (disk : Disk) (path : String) (r : Except String Unit × Disk) :
    Prop :=
  (r.1 = .ok () → r.2.stat path = .ok (.file db.toBytes)) ∧
    ∀ e, r.1 = .error e → DumpFailure disk path e r.2

theorem DumpOutcome.failed {db : Database} {disk after : Disk} {path e : String}
    (h : DumpFailure disk path e after) : DumpOutcome db disk path (.error e, after) :=
  ⟨(fun h => by cases h), fun e' he => by cases he; exact h⟩

theorem DumpOutcome.succeeded {db : Database} {disk after : Disk} {path : String}
    (h : after.stat path = .ok (.file db.toBytes)) : DumpOutcome db disk path (.ok (), after) :=
  ⟨fun _ => h, fun e he => by cases he⟩

/-- **What one snapshot leaves.** A snapshot that succeeds leaves the database's bytes at its
path. One that fails answers how (`DumpFailure`): it leaves what was at the path there, unless
it failed on the vacuum, after removing what was there, and then nothing is at the path. -/
theorem dumpToDisk_outcome (db : Database) {disk : Disk} (hcwd : Path.isAbs disk.cwd = true)
    (path : String) : DumpOutcome db disk path (dumpToDisk db disk path) := by
  by_cases hp : path.isEmpty = true
  · have hd : dumpToDisk db disk path = (.error "sqlite file path not set", disk) := by
      simp [dumpToDisk, hp]
    rw [hd]
    exact .failed (.noPath hp)
  cases hdir : dumpDirectory disk path with
  | error e =>
    have hd : dumpToDisk db disk path = (.error e, disk) := by simp [dumpToDisk, hp, hdir]
    obtain ⟨m, rfl⟩ := dumpDirectory_error hdir
    rw [hd]
    exact .failed (.directory m)
  | ok d₁ =>
    have hg := dumpDirectory_grows hcwd hdir
    have hcwd₁ : Path.isAbs d₁.cwd = true := by rw [hg.cwd]; exact hcwd
    -- the vacuum runs where nothing is at the path: the entry found there was removed first
    have hvacuum : ∀ d₂ : Disk, d₂.cwd = d₁.cwd → (∀ n, d₂.stat path ≠ .ok n) →
        (∀ d₃, vacuumInto db d₂ path = .ok d₃ → dumpToDisk db disk path = (.ok (), d₃)) →
        (∀ e, vacuumInto db d₂ path = .error e → dumpToDisk db disk path = (.error e, d₂)) →
        DumpOutcome db disk path (dumpToDisk db disk path) := by
      intro d₂ hcwd₂ hempty hok herr
      cases hvac : vacuumInto db d₂ path with
      | ok d₃ =>
        rw [hok d₃ hvac]
        exact .succeeded (vacuumInto_stat (by rw [hcwd₂]; exact hcwd₁) hvac)
      | error e =>
        rw [herr e hvac]
        obtain ⟨m, rfl⟩ := vacuumInto_error hvac
        exact .failed (.vacuum m hempty)
    cases hs : d₁.stat path with
    | ok n =>
      cases hrm : removeOld d₁ path with
      | error e =>
        -- the removal failed on what the directory step left at the path
        have hd : dumpToDisk db disk path = (.error e, d₁) := by
          simp [dumpToDisk, hp, hdir, hs, hrm]
        obtain ⟨m, rfl⟩ := removeOld_error hrm
        rw [hd]
        exact .failed (.removal m hg ⟨n, hs⟩)
      | ok d₂ =>
        obtain ⟨hroot, hd₂⟩ := removeOld_eq_drop hrm
        have hempty : ∀ n, d₂.stat path ≠ .ok n := hd₂ ▸ stat_drop d₁ hroot
        exact hvacuum d₂ (by rw [hd₂]; rfl) hempty
          (fun d₃ hv => by simp [dumpToDisk, hp, hdir, hs, hrm, hv])
          (fun e hv => by simp [dumpToDisk, hp, hdir, hs, hrm, hv])
    | error e =>
      exact hvacuum d₁ rfl (fun n hn => by rw [hs] at hn; cases hn)
        (fun d₃ hv => by simp [dumpToDisk, hp, hdir, hs, hv])
        (fun e hv => by simp [dumpToDisk, hp, hdir, hs, hv])

/-! ### Snapshots taken at once -/

/-- The database a finished snapshot left at its path, if it succeeded. -/
def DumpDone.written (d : DumpDone) : Option Database :=
  match d.result with
  | .ok () => some d.db
  | .error _ => none

/-- What one event does to the disk: nothing, reporting no snapshot or a failed one; making the
directory; removing the entry at the path; or vacuuming the database into the path, which
finishes a snapshot of it. -/
inductive DiskStep (s : Snapshots) : Disk → Option DumpDone → Prop
  | keep {r : Option DumpDone} : r.bind DumpDone.written = none → DiskStep s s.disk r
  | directory {d : Disk} : dumpDirectory s.disk s.path = .ok d → DiskStep s d none
  | removal {d : Disk} : removeOld s.disk s.path = .ok d → DiskStep s d none
  | vacuum {d : Disk} (g : Nat) : vacuumInto s.db s.disk s.path = .ok d →
      DiskStep s d (some ⟨g, .ok (), s.db⟩)

namespace Snapshots

theorem finish_error (s : Snapshots) (g : Nat) (e : String) :
    (s.finish g (.error e)).1.path = s.path ∧
      DiskStep s (s.finish g (.error e)).1.disk (s.finish g (.error e)).2 :=
  ⟨rfl, .keep rfl⟩

/-- What the next call of a snapshot can do; the path stays. -/
theorem next_diskStep (s : Snapshots) (g : Nat) :
    (s.next g).1.path = s.path ∧ DiskStep s (s.next g).1.disk (s.next g).2 := by
  unfold next
  split
  · -- making the directory
    split
    · exact s.finish_error g _
    · split
      · next d hd => exact ⟨rfl, .directory hd⟩
      · exact s.finish_error g _
  · -- looking at the path
    split <;> exact ⟨rfl, .keep rfl⟩
  · -- removing what is there
    split
    · next d hd => exact ⟨rfl, .removal hd⟩
    · exact s.finish_error g _
  · -- the vacuum
    split
    · next d hd => exact ⟨rfl, .vacuum g hd⟩
    · exact s.finish_error g _
  all_goals exact ⟨rfl, .keep rfl⟩

/-- What one event can do; the path stays. -/
theorem step_diskStep (s : Snapshots) (e : SnapshotEvent) :
    (s.step e).1.path = s.path ∧ DiskStep s (s.step e).1.disk (s.step e).2 := by
  cases e with
  | start g =>
    simp only [step]
    split <;> exact ⟨rfl, .keep rfl⟩
  | next g => exact s.next_diskStep g
  | write db => exact ⟨rfl, .keep rfl⟩

theorem run_cons (s : Snapshots) (e : SnapshotEvent) (es : List SnapshotEvent) :
    run s (e :: es) = ((run (s.step e).1 es).1, (s.step e).2.toList ++ (run (s.step e).1 es).2) :=
  rfl

end Snapshots

namespace DiskStep

variable {s : Snapshots} {d : Disk} {r : Option DumpDone}

theorem cwd (hcwd : Path.isAbs s.disk.cwd = true) (h : DiskStep s d r) : d.cwd = s.disk.cwd := by
  cases h with
  | keep _ => rfl
  | directory hd => exact (dumpDirectory_grows hcwd hd).cwd
  | removal hd =>
    obtain ⟨-, rfl⟩ := removeOld_eq_drop hd
    rfl
  | vacuum g hd =>
    obtain ⟨-, rfl⟩ := writeFile_eq_put (vacuumInto_ok hd)
    simp

/-- A snapshot that finishes with success leaves its bytes at the path. -/
theorem written {db : Database} (h : DiskStep s d r) (hw : r.bind DumpDone.written = some db) :
    d.get? (s.disk.resolve s.path) = some (.file db.toBytes) := by
  cases h with
  | keep hk => rw [hk] at hw; cases hw
  | directory _ => cases hw
  | removal _ => cases hw
  | vacuum g hd =>
    obtain ⟨hroot, rfl⟩ := writeFile_eq_put (vacuumInto_ok hd)
    simp only [Option.bind_some, DumpDone.written, Option.some.injEq] at hw
    subst hw
    rw [get?_put _ hroot, if_pos rfl]

/-- Any other event leaves no file at the path that was not there. -/
theorem kept {data : ByteArray} (hcwd : Path.isAbs s.disk.cwd = true) (h : DiskStep s d r)
    (hw : r.bind DumpDone.written = none) (hd : d.get? (s.disk.resolve s.path) = some (.file data)) :
    s.disk.get? (s.disk.resolve s.path) = some (.file data) := by
  cases h with
  | keep _ => exact hd
  | directory hdir => exact (dumpDirectory_grows hcwd hdir).file hd
  | removal hrm =>
    obtain ⟨hroot, rfl⟩ := removeOld_eq_drop hrm
    rw [get?_drop _ hroot, if_pos rfl] at hd
    cases hd
  | vacuum g _ => cases hw

end DiskStep

namespace Snapshots

/-- The log of one event reads the snapshot it finished, if it succeeded. -/
theorem toList_filterMap_written (r : Option DumpDone) :
    r.toList.filterMap DumpDone.written = (r.bind DumpDone.written).toList := by
  cases r <;> rfl

/-- **The file at the path over any interleaving.** Whatever order the calls of the snapshots and
the writes to the database come in, a file at the path at the end is the snapshot of the last
snapshot that succeeded, or the file that was there at the start when none succeeded. -/
theorem run_entry : ∀ (es : List SnapshotEvent) (s : Snapshots), Path.isAbs s.disk.cwd = true →
    ∀ {data : ByteArray}, (run s es).1.disk.get? (s.disk.resolve s.path) = some (.file data) →
      ((run s es).2.filterMap DumpDone.written = [] ∧
          s.disk.get? (s.disk.resolve s.path) = some (.file data)) ∨
        ∃ db, ((run s es).2.filterMap DumpDone.written).getLast? = some db ∧ data = db.toBytes
  | [], s, _, _, h => .inl ⟨rfl, h⟩
  | e :: es, s, hcwd, data, h => by
    obtain ⟨hpath, hstep⟩ := s.step_diskStep e
    have hcwd' := hstep.cwd hcwd
    -- the path names the same entry after the event
    have habs : (s.step e).1.disk.resolve (s.step e).1.path = s.disk.resolve s.path := by
      rw [hpath]
      simp [Disk.resolve, hcwd']
    rw [run_cons] at h ⊢
    rw [← habs] at h
    have ih := run_entry es (s.step e).1 (by rw [hcwd']; exact hcwd) h
    rw [habs] at ih
    simp only [List.filterMap_append, List.getLast?_append, toList_filterMap_written]
    cases hw : (s.step e).2.bind DumpDone.written with
    | none =>
      rw [Option.toList_none]
      rcases ih with ⟨hrest, hdata⟩ | ⟨db, hlast, rfl⟩
      · exact .inl ⟨by simp [hrest], hstep.kept hcwd hw hdata⟩
      · exact .inr ⟨db, by simp [hlast], rfl⟩
    | some db =>
      rw [Option.toList_some]
      right
      rcases ih with ⟨hrest, hdata⟩ | ⟨db', hlast, rfl⟩
      · refine ⟨db, by simp [hrest], ?_⟩
        rw [hstep.written hw] at hdata
        cases hdata
        rfl
      · exact ⟨db', by simp [hlast], rfl⟩

/-! ### A snapshot alone -/

@[simp] theorem setPhase_self (s : Snapshots) (g : Nat) (p : DumpPhase) :
    s.setPhase g p g = p := by
  simp [setPhase]

/-- **A snapshot that nothing interrupts is one call of `dumpToDisk`.** Four calls of a goroutine
that has started a snapshot, with no other event between them, leave the disk as `dumpToDisk`
does and report its answer. -/
theorem solo_snapshot (s : Snapshots) {g : Nat} (hg : s.phases g = .mkdir) :
    (s.run (List.replicate 4 (.next g))).1.disk = (dumpToDisk s.db s.disk s.path).2 ∧
      (s.run (List.replicate 4 (.next g))).2 = [⟨g, (dumpToDisk s.db s.disk s.path).1, s.db⟩] := by
  -- the cases are those of `dumpToDisk`: where it stops, the snapshot finishes
  by_cases hp : s.path.isEmpty = true
  · simp [run, step, next, finish, setPhase, hg, hp, dumpToDisk]
  cases hdir : dumpDirectory s.disk s.path with
  | error e => simp [run, step, next, finish, setPhase, hg, hp, hdir, dumpToDisk]
  | ok d₁ =>
    cases hs : d₁.stat s.path with
    | ok n =>
      cases hrm : removeOld d₁ s.path with
      | error e => simp [run, step, next, finish, setPhase, hg, hp, hdir, hs, hrm, dumpToDisk]
      | ok d₂ =>
        cases hvac : vacuumInto s.db d₂ s.path with
        | ok d₃ => simp [run, step, next, finish, setPhase, hg, hp, hdir, hs, hrm, hvac, dumpToDisk]
        | error e =>
          simp [run, step, next, finish, setPhase, hg, hp, hdir, hs, hrm, hvac, dumpToDisk]
    | error e' =>
      cases hvac : vacuumInto s.db d₁ s.path with
      | ok d₃ => simp [run, step, next, finish, setPhase, hg, hp, hdir, hs, hvac, dumpToDisk]
      | error e => simp [run, step, next, finish, setPhase, hg, hp, hdir, hs, hvac, dumpToDisk]

end Snapshots

/-! ### The end of a run -/

namespace Database

/-- A run saved is stored, under the identifier it has or a new one. -/
theorem saveRun_mem {db db' : Database} {r : StoredRun} (h : db.saveRun r = .ok db') :
    ∃ id, { r with id } ∈ db'.runs := by
  unfold saveRun at h
  cases hr : db.ready "runs" with
  | error e => simp [hr, bind, Except.bind] at h
  | ok u =>
    simp only [hr, bind, Except.bind] at h
    split at h
    · -- the row with its identifier is overwritten
      next hany =>
      simp only [pure, Except.pure, Except.ok.injEq] at h
      subst h
      obtain ⟨x, hx, hid⟩ := List.any_eq_true.1 hany
      exact ⟨r.id, List.mem_map.2 ⟨x, hx, by simp [hid]⟩⟩
    · cases hi : db.insertRun r with
      | error e => simp [hi] at h
      | ok p =>
        simp only [hi, pure, Except.pure, Except.ok.injEq] at h
        subst h
        unfold insertRun at hi
        simp only [hr, bind, Except.bind] at hi
        split at hi
        · cases hi
        · split at hi
          · cases hi
          · simp only [pure, Except.pure, Except.ok.injEq] at hi
            rw [← hi]
            exact ⟨_, List.mem_append_right _ (List.mem_singleton_self _)⟩

end Database

end Store

namespace Queue

/-- A drain draws nothing only from an empty queue. -/
theorem drain_fst_eq_nil {α : Type} (q : Queue α) (limit : Int) :
    (q.drain limit).1 = [] ↔ q.items = [] := by
  -- a positive limit draws at least one
  have hk : drainCount q.length limit = 0 → q.length = 0 := by
    unfold drainCount
    split
    · next hc =>
      simp only [Bool.and_eq_true, decide_eq_true_eq] at hc
      omega
    · exact id
  simp only [drain, List.take_eq_nil_iff]
  constructor
  · rintro (h | h)
    · exact List.length_eq_zero_iff.1 (hk h)
    · exact h
  · exact .inr

theorem drain_length {α : Type} (q : Queue α) (limit : Int) :
    (q.drain limit).2.length + (q.drain limit).1.length = q.length := by
  simp only [drain, length, List.length_drop, List.length_take]
  omega

end Queue

namespace Store


namespace Backend

/-- The flush loop, given more rounds than samples queued, answers success only once it has
stored the whole queue. -/
theorem go_drains (b : Backend) : ∀ (fuel : Nat) (db : Database) (q : Queue StoredSample),
    q.length < fuel → (flush.go b fuel db q).1 = .ok () → (flush.go b fuel db q).2.2.items = []
  | 0, _, _, hlt, _ => absurd hlt (Nat.not_lt_zero _)
  | fuel + 1, db, q, hlt, hok => by
    by_cases hempty : (q.drain b.batchSize).1.isEmpty
    · have hgo : flush.go b (fuel + 1) db q = (.ok (), db, (q.drain b.batchSize).2) := by
        simp [flush.go, hempty]
      -- nothing was drawn, so nothing was queued
      have hq := (Queue.drain_fst_eq_nil q b.batchSize).1 (List.isEmpty_iff.1 hempty)
      rw [hgo]
      simp [Queue.drain, hq]
    · cases hins : db.insertSamples (q.drain b.batchSize).1 with
      | error e =>
        have hgo : flush.go b (fuel + 1) db q =
            (.error s!"insert {(q.drain b.batchSize).1.length} samples: {e.message}", db,
              (q.drain b.batchSize).2) := by
          simp [flush.go, hempty, hins]
        rw [hgo] at hok
        cases hok
      | ok db₁ =>
        have hgo : flush.go b (fuel + 1) db q = flush.go b fuel db₁ (q.drain b.batchSize).2 := by
          simp [flush.go, hempty, hins]
        rw [hgo] at hok ⊢
        -- a batch was drawn, so fewer samples are left than rounds
        have hpos : 0 < (q.drain b.batchSize).1.length :=
          List.length_pos_iff.2 (by simpa [List.isEmpty_iff] using hempty)
        have hlen := Queue.drain_length q b.batchSize
        exact go_drains b fuel db₁ _ (by omega) hok

theorem flush_db {b : Backend} {db : Database} (h : b.db = some db) :
    ∃ db', b.flush.2.db = some db' := by
  cases hq : b.queue with
  | none => exact ⟨db, by simp [flush, h, hq]⟩
  | some q => exact ⟨(flush.go b (q.length + 1) db q).2.1, by simp [flush, h, hq]⟩

@[simp] theorem flush_track (b : Backend) : b.flush.2.track = b.track := by
  unfold flush
  split <;> rfl

/-- A flush of a store with a database that succeeds leaves no sample queued. -/
theorem flush_drains {b : Backend} {db : Database} (hdb : b.db = some db)
    (h : b.flush.1 = .ok ()) : b.flush.2.pending = 0 := by
  cases hq : b.queue with
  | none => simp [flush, hdb, hq, pending]
  | some q =>
    have hf : b.flush = ((flush.go b (q.length + 1) db q).1,
        { b with db := some (flush.go b (q.length + 1) db q).2.1,
                 queue := some (flush.go b (q.length + 1) db q).2.2 }) := by
      simp [flush, hdb, hq]
    rw [hf] at h ⊢
    have hnil := go_drains b (q.length + 1) db q (Nat.lt_succ_self _) h
    simp only [pending, Option.map_some, Option.getD_some]
    exact congrArg List.length hnil

/-- **What an ended run stores.** Ending a run that answers success leaves every queued sample
stored, and the run stored with its track and its summary. -/
theorem endRun_stores {b b' : Backend} {db₀ : Database} (hdb : b.db = some db₀)
    {summary : RunSummary} (h : b.endRun (some summary) = (.ok (), b')) :
    ∃ r db id, b.run = some r ∧ b'.db = some db ∧ b'.pending = 0 ∧
      { r with id, track := b.track.lineString, summary := RunSummary.toStored summary } ∈
        db.runs := by
  unfold endRun at h
  cases hr : b.run with
  | none => simp [hr] at h
  | some r =>
    simp only [hr] at h
    rcases hf : ({ b with run := none } : Backend).flush with ⟨_ | _, bf⟩
    · simp [hf] at h
    · simp only [hf] at h
      have hbf : bf = ({ b with run := none } : Backend).flush.2 := by rw [hf]
      obtain ⟨db₁, hdb₁⟩ := flush_db (b := { b with run := none }) hdb
      have hpend : bf.pending = 0 := by
        rw [hbf]
        exact flush_drains (b := { b with run := none }) hdb (by rw [hf])
      have htrack : bf.track = b.track := by rw [hbf, flush_track]
      rw [← hbf] at hdb₁
      simp only [hdb₁] at h
      split at h
      · next db hsave =>
        simp only [Prod.mk.injEq] at h
        obtain ⟨-, rfl⟩ := h
        obtain ⟨id, hid⟩ := Database.saveRun_mem hsave
        refine ⟨r, db, id, rfl, rfl, hpend, ?_⟩
        simpa [htrack] using hid
      · simp at h

end Backend

end Store

namespace Storage.Recorder

open Store

/-- **A run's end reaches the disk.** When a recorder on a database with a dump path ends a run
and answers success, the file at the path is the snapshot of the database as the end of the
run left it: every sample stored, and the run with its track and its summary. -/
theorem endRun_snapshot {b : Backend} {db₀ : Database} (hdb : b.db = some db₀) {p : String}
    (hp : p.isEmpty = false) (summary : RunSummary) {disk : Disk}
    (hcwd : Path.isAbs disk.cwd = true) (h : (endRun (.database b p) summary disk).1 = .ok ()) :
    ∃ b' db r id, (endRun (.database b p) summary disk).2.1 = .database b' p ∧ b.run = some r ∧
      b'.db = some db ∧ b'.pending = 0 ∧
      { r with id, track := b.track.lineString, summary := RunSummary.toStored summary } ∈
        db.runs ∧
      (endRun (.database b p) summary disk).2.2.stat p = .ok (.file db.toBytes) := by
  rcases he : b.endRun (some summary) with ⟨_ | _, b'⟩
  · simp [endRun, he] at h
  · obtain ⟨r, db, id, hr, hdb', hpend, hrow⟩ := Backend.endRun_stores hdb he
    have hd : endRun (.database b p) summary disk =
        ((dumpToDisk db disk p).1, .database b' p, (dumpToDisk db disk p).2) := by
      simp only [endRun, he, hdb', hp, Bool.false_eq_true, if_false]
    rw [hd] at h ⊢
    exact ⟨b', db, r, id, rfl, hr, hdb', hpend, hrow, (dumpToDisk_outcome db hcwd p).1 h⟩

end Storage.Recorder

namespace Store

open Storage

/-- **Every file at the dump path is a whole snapshot, but a failed snapshot can leave none.**

One snapshot that succeeds leaves the database's bytes at its path. One that fails answers how
(`DumpFailure`): on the path, the directory or the removal it leaves what was at the path; on
the vacuum it has already removed that, and leaves nothing. Over any interleaving of snapshots
and writes to the database, an event that finishes a snapshot with success leaves that snapshot
at the path, and a file at the path at the end is the snapshot of the last one that succeeded,
or the file that was there at the start when none succeeded. When a recorder on a database ends
a run and answers success, the file at its dump path is the snapshot of the database with every
sample stored and the run stored with its track and summary. -/
theorem dump_path_holds_whole_snapshots (disk : Disk) (hcwd : Path.isAbs disk.cwd = true) :
    (∀ (db : Database) (path : String),
      ((dumpToDisk db disk path).1 = .ok () →
        (dumpToDisk db disk path).2.stat path = .ok (.file db.toBytes)) ∧
      ∀ e, (dumpToDisk db disk path).1 = .error e →
        DumpFailure disk path e (dumpToDisk db disk path).2) ∧
    (∀ (db : Database) (path : String) (phases : Nat → DumpPhase),
      let s : Snapshots := { disk, db, path, phases }
      (∀ (e : SnapshotEvent) (db' : Database), (s.step e).2.bind DumpDone.written = some db' →
        (s.step e).1.disk.get? (disk.resolve path) = some (.file db'.toBytes)) ∧
      ∀ (es : List SnapshotEvent) (data : ByteArray),
        (s.run es).1.disk.get? (disk.resolve path) = some (.file data) →
        ((s.run es).2.filterMap DumpDone.written = [] ∧
            disk.get? (disk.resolve path) = some (.file data)) ∨
          ∃ db', ((s.run es).2.filterMap DumpDone.written).getLast? = some db' ∧
            data = db'.toBytes) ∧
    ∀ (b : Backend) (db₀ : Database) (p : String) (summary : RunSummary),
      b.db = some db₀ → p.isEmpty = false →
      (Recorder.endRun (.database b p) summary disk).1 = .ok () →
      ∃ b' db r id, (Recorder.endRun (.database b p) summary disk).2.1 = .database b' p ∧
        b.run = some r ∧ b'.db = some db ∧ b'.pending = 0 ∧
        { r with id, track := b.track.lineString, summary := RunSummary.toStored summary } ∈
          db.runs ∧
        (Recorder.endRun (.database b p) summary disk).2.2.stat p = .ok (.file db.toBytes) := by
  refine ⟨fun db path => dumpToDisk_outcome db hcwd path, fun db path phases => ⟨?_, ?_⟩,
    fun b db₀ p summary hdb hp h => Recorder.endRun_snapshot hdb hp summary hcwd h⟩
  · intro e db' hw
    exact (Snapshots.step_diskStep _ e).2.written hw
  · intro es data h
    exact Snapshots.run_entry es _ hcwd h

/-- A snapshot into a fresh disk leaves the database there. -/
theorem snapshot_into_fresh_disk :
    Path.isAbs ({} : Disk).cwd = true ∧
      (dumpToDisk {} {} "/x.db").2.stat "/x.db" = .ok (.file ({} : Database).toBytes) :=
  ⟨by decide +kernel,
    ((dump_path_holds_whole_snapshots {} (by decide +kernel)).1 {} "/x.db").1 (by decide +kernel)⟩

/-- A snapshot of a closed database fails on the vacuum after removing the snapshot before it,
and leaves nothing at the path. -/
theorem closed_database_snapshot_leaves_nothing :
    let first := (dumpToDisk {} {} "/x.db").2
    let second := dumpToDisk { closed := true } first "/x.db"
    (first.stat "/x.db").isOk = true ∧
      second.1 = .error "error dumping memory DB to disk: sql: database is closed" ∧
      (second.2.stat "/x.db").isOk = false := by
  decide +kernel

end Store

end SailSim
