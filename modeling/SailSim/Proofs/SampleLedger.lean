import Mathlib
import SailSim.Store.Backend
import SailSim.Proofs.SharedQueue

/-!
# Where the accepted samples of a database store go

The database store queues every sample it accepts and writes the queue in batches when it
flushes: on its writer's tick, when a run ends and when the store closes. A flush draws a batch
from the front of the queue before it inserts it, and stops at the first insert that fails; the
batch it drew is then neither stored nor queued.

This file follows the samples through every sequence of calls: runs started and ended, samples
recorded, the writer's flushes, closing, and the database failing at any point. Samples are
compared without their row identifiers, which the database assigns when it stores them.

## Main results

* `Backend.flush_ledger` : a flush moves the front of the queue into the database, in order;
  when an insert fails it loses exactly the batch it drew, at least one sample and at most
  `batchSize`, and its error names the count of that batch.
* `Backend.Ledger` : the samples a store has held, in the order it took them, are the samples
  that left its queue followed by the samples still queued; those that left are the stored
  rows, in order, and the lost batches, each once.
* `Backend.samples_stored_lost_or_pending` : **over every sequence of calls**, the ledger holds
  with one lost batch for each failed flush, the stored rows are never touched, and when no
  flush fails every accepted sample is stored exactly once or still pending.
* `Backend.ended_run_loses_sample_when_database_fails` : a sample recorded before the database
  fails is lost when the run ends: the flush fails, and the sample is neither stored nor
  pending.
-/

namespace SailSim.Store

namespace StoredSample

/-- The sample without its row identifier, which the database assigns when it stores it. -/
def unnumbered (m : StoredSample) : StoredSample := { m with id := 0 }

@[simp] theorem unnumbered_ofSample (runId : Nat) (s : StepSample) :
    (ofSample runId s).unnumbered = ofSample runId s := rfl

@[simp] theorem unnumbered_withId (m : StoredSample) (n : Nat) :
    ({ m with id := n } : StoredSample).unnumbered = m.unnumbered := rfl

end StoredSample

open StoredSample

open scoped List

namespace Database

/-- Numbering samples one after another: the rows are the samples, each with its identifier. -/
theorem foldl_numbered {f : Array StoredSample × Nat → StoredSample → Array StoredSample × Nat}
    (hf : ∀ acc n m, f (acc, n) m = (acc.push { m with id := n + 1 }, n + 1)) :
    ∀ (ms : List StoredSample) (acc : Array StoredSample) (n : Nat),
      (ms.foldl f (acc, n)).1.toList.map unnumbered = (acc.toList ++ ms).map unnumbered
  | [], acc, n => by simp
  | m :: ms, acc, n => by
    rw [List.foldl_cons, hf, foldl_numbered hf ms]
    simp

/-- Inserting samples appends them, each with its identifier, after the rows stored. -/
theorem insertSamples_samples {db db' : Database} {ms : List StoredSample}
    (h : db.insertSamples ms = .ok db') :
    db.samples <+: db'.samples ∧ db'.samples.map unnumbered = (db.samples ++ ms).map unnumbered := by
  unfold insertSamples at h
  cases hr : db.ready "step_samples" with
  | error e => simp [hr, bind, Except.bind] at h
  | ok u =>
    simp only [hr, bind, Except.bind, pure, Except.pure, Except.ok.injEq] at h
    subst h
    refine ⟨List.prefix_append _ _, ?_⟩
    rw [List.map_append, foldl_numbered (fun _ _ _ => rfl)]
    simp

theorem insertRun_samples {db db' : Database} {r : StoredRun} {id : Nat}
    (h : db.insertRun r = .ok (id, db')) : db'.samples = db.samples := by
  unfold insertRun at h
  cases hr : db.ready "runs" with
  | error e => simp [hr, bind, Except.bind] at h
  | ok u =>
    simp only [hr, bind, Except.bind] at h
    split at h
    · simp at h
    · split at h
      · simp at h
      · simp only [pure, Except.pure, Except.ok.injEq, Prod.mk.injEq] at h
        rw [← h.2]

theorem saveRun_samples {db db' : Database} {r : StoredRun} (h : db.saveRun r = .ok db') :
    db'.samples = db.samples := by
  unfold saveRun at h
  cases hr : db.ready "runs" with
  | error e => simp [hr, bind, Except.bind] at h
  | ok u =>
    simp only [hr, bind, Except.bind] at h
    split at h
    · simp only [pure, Except.pure, Except.ok.injEq] at h
      rw [← h]
    · cases hi : db.insertRun r with
      | error e => simp [hi] at h
      | ok p =>
        simp only [hi, pure, Except.pure, Except.ok.injEq] at h
        rw [← h]
        exact insertRun_samples hi

@[simp] theorem close_samples (db : Database) : db.close.samples = db.samples := rfl

end Database

namespace Backend

/-- The samples queued, oldest first. -/
def queued (b : Backend) : List StoredSample := (b.queue.map Queue.items).getD []

/-- The sample rows stored in the database, as stored. -/
def rows (b : Backend) : List StoredSample := (b.db.map Database.samples).getD []

theorem pending_eq_length (b : Backend) : b.pending = b.queued.length := by
  cases hq : b.queue <;> simp [pending, queued, hq, Queue.length]

/-- A batch a failed flush lost, with the error the flush answered: at least one sample, at
most `batchSize` of them (any number when it is zero), and an error that names their count. -/
def LostBatch (batchSize : Nat) (batch : List StoredSample) (e : String) : Prop :=
  batch ≠ [] ∧ (batch.length ≤ batchSize ∨ batchSize = 0) ∧
    ∃ m : String, e = s!"insert {batch.length} samples: {m}"

/-- The error of an outcome, if it is one. -/
def failure : Except String Unit → List String
  | .ok () => []
  | .error e => [e]

/-! ### One flush -/

/-- A batch drawn from a queue of `n` is at most `limit`, unless `limit` is zero. -/
theorem drain_batch_length (q : Queue StoredSample) (limit : Nat) :
    (q.drain limit).1.length ≤ limit ∨ limit = 0 := by
  simp only [Queue.drain, List.length_take, Queue.drainCount_eq, Queue.drainLength]
  by_cases h : limit = 0
  · exact .inr h
  · left
    rw [if_neg (by omega)]
    omega

/-- The flush loop: the queue it starts from is what it stored, in order, then the batch it
lost if an insert failed, then what it left queued; the rows stored stay in front. -/
theorem go_ledger (b : Backend) : ∀ (fuel : Nat) (db : Database) (q : Queue StoredSample),
    db.samples <+: (flush.go b fuel db q).2.1.samples ∧
    ∃ (moved : List StoredSample) (lost : List (List StoredSample)),
      q.items = moved ++ lost.flatten ++ (flush.go b fuel db q).2.2.items ∧
      (flush.go b fuel db q).2.1.samples.map unnumbered = (db.samples ++ moved).map unnumbered ∧
      List.Forall₂ (LostBatch b.batchSize) (lost.map (·.map unnumbered))
        (failure (flush.go b fuel db q).1)
  | 0, db, q => by
    refine ⟨List.prefix_refl _, [], [], ?_⟩
    simp [flush.go, failure]
  | fuel + 1, db, q => by
    -- the batch drawn, and the queue behind it
    have hsplit : q.items = (q.drain b.batchSize).1 ++ (q.drain b.batchSize).2.items := by
      simp [Queue.drain, List.take_append_drop]
    by_cases hempty : (q.drain b.batchSize).1.isEmpty
    · have hgo : flush.go b (fuel + 1) db q = (.ok (), db, (q.drain b.batchSize).2) := by
        simp [flush.go, hempty]
      rw [hgo]
      refine ⟨List.prefix_refl _, [], [], ?_, by simp, by simp [failure]⟩
      rw [List.isEmpty_iff] at hempty
      simpa [hempty] using hsplit
    · cases hins : db.insertSamples (q.drain b.batchSize).1 with
      | error e =>
        -- the failed insert loses the batch it drew
        have hgo : flush.go b (fuel + 1) db q =
            (.error s!"insert {(q.drain b.batchSize).1.length} samples: {e.message}", db,
              (q.drain b.batchSize).2) := by
          simp [flush.go, hempty, hins]
        rw [hgo]
        refine ⟨List.prefix_refl _, [], [(q.drain b.batchSize).1], by simpa using hsplit,
          by simp, ?_⟩
        refine List.Forall₂.cons ⟨?_, ?_, e.message, by simp⟩ List.Forall₂.nil
        · simpa [List.isEmpty_iff] using hempty
        · simpa using drain_batch_length q b.batchSize
      | ok db₁ =>
        -- the batch is stored, and the loop goes on with the rest
        have hgo : flush.go b (fuel + 1) db q = flush.go b fuel db₁ (q.drain b.batchSize).2 := by
          simp [flush.go, hempty, hins]
        rw [hgo]
        obtain ⟨hpre₁, hrows₁⟩ := Database.insertSamples_samples hins
        obtain ⟨hpre, moved, lost, hq, hrows, hlost⟩ := go_ledger b fuel db₁ (q.drain b.batchSize).2
        refine ⟨hpre₁.trans hpre, (q.drain b.batchSize).1 ++ moved, lost, ?_, ?_, hlost⟩
        · rw [hsplit, hq]
          simp
        · rw [hrows, List.map_append, hrows₁]
          simp

/-- The samples stored in the database, without their identifiers. -/
def storedSamples (b : Backend) : List StoredSample := b.rows.map unnumbered

/-- The samples queued, without their identifiers. -/
def queuedSamples (b : Backend) : List StoredSample := b.queued.map unnumbered

/-- A flush, as the rows and the queue see it: the front of the queue is stored in order, then
the batch an insert failed on is lost, and the rest stays queued. -/
theorem flush_ledger (b : Backend) :
    b.flush.2.batchSize = b.batchSize ∧ b.rows <+: b.flush.2.rows ∧
    ∃ (moved : List StoredSample) (lost : List (List StoredSample)),
      b.queuedSamples = moved ++ lost.flatten ++ b.flush.2.queuedSamples ∧
      b.flush.2.storedSamples = b.storedSamples ++ moved ∧
      List.Forall₂ (LostBatch b.batchSize) lost (failure b.flush.1) := by
  rcases hdb : b.db with _ | db
  · have hf : b.flush = (.ok (), b) := by simp [flush, hdb]
    rw [hf]
    exact ⟨rfl, List.prefix_refl _, [], [], by simp, by simp, by simp [failure]⟩
  rcases hq : b.queue with _ | q
  · have hf : b.flush = (.ok (), b) := by simp [flush, hdb, hq]
    rw [hf]
    exact ⟨rfl, List.prefix_refl _, [], [], by simp, by simp, by simp [failure]⟩
  have hf : b.flush = ((flush.go b (q.length + 1) db q).1,
      { b with db := some (flush.go b (q.length + 1) db q).2.1,
               queue := some (flush.go b (q.length + 1) db q).2.2 }) := by
    simp [flush, hdb, hq]
  obtain ⟨hpre, moved, lost, hitems, hrows, hlost⟩ := go_ledger b (q.length + 1) db q
  rw [hf]
  refine ⟨rfl, by simpa [rows, hdb] using hpre, moved.map unnumbered,
    lost.map (·.map unnumbered), ?_, ?_, by simpa using hlost⟩
  · simp [queuedSamples, queued, hq, hitems, List.map_flatten]
  · simp [storedSamples, rows, hdb, hrows]

/-! ### The ledger -/

/-- The ledger of a store that has held the samples `held`, in the order it took them: they are
the samples that `departed` from its queue followed by the samples still queued; the stored
samples departed in the order they are stored, and every departed sample was either stored or
lost in one of the batches `lost`, once. -/
structure Ledger (held departed : List StoredSample) (b : Backend)
    (lost : List (List StoredSample)) : Prop where
  split : held = departed ++ b.queuedSamples
  inOrder : b.storedSamples <+ departed
  once : departed ~ b.storedSamples ++ lost.flatten

/-- Before anything happens, the rows stored have departed and the queue is what it holds. -/
theorem Ledger.start (b : Backend) :
    Ledger (b.storedSamples ++ b.queuedSamples) b.storedSamples b [] :=
  ⟨rfl, List.Sublist.refl _, by simp⟩

/-- Samples that join the queue while the rows stay as they are. -/
theorem Ledger.enqueue {held departed : List StoredSample} {b b' : Backend}
    {lost : List (List StoredSample)} (hl : Ledger held departed b lost)
    (new : List StoredSample) (hq : b'.queuedSamples = b.queuedSamples ++ new)
    (hs : b'.storedSamples = b.storedSamples) : Ledger (held ++ new) departed b' lost where
  split := by rw [hl.split, hq, List.append_assoc]
  inOrder := hs ▸ hl.inOrder
  once := hs ▸ hl.once

/-- The front of the queue stored as `moved`, then the batches `batches` lost. -/
theorem Ledger.move {held departed : List StoredSample} {b b' : Backend}
    {lost : List (List StoredSample)} (hl : Ledger held departed b lost)
    (moved : List StoredSample) (batches : List (List StoredSample))
    (hq : b.queuedSamples = moved ++ batches.flatten ++ b'.queuedSamples)
    (hs : b'.storedSamples = b.storedSamples ++ moved) :
    Ledger held (departed ++ moved ++ batches.flatten) b' (lost ++ batches) where
  split := by rw [hl.split, hq]; simp
  inOrder := by
    rw [hs]
    exact (hl.inOrder.append (List.Sublist.refl moved)).trans (List.sublist_append_left _ _)
  once := by
    rw [hs, List.flatten_append]
    -- the stored samples and the lost batches only trade places
    calc departed ++ moved ++ batches.flatten
        ~ b.storedSamples ++ lost.flatten ++ moved ++ batches.flatten :=
          (hl.once.append_right moved).append_right _
      _ ~ b.storedSamples ++ moved ++ lost.flatten ++ batches.flatten := by
          refine List.Perm.append_right _ ?_
          simpa only [List.append_assoc] using
            (@List.perm_append_comm _ lost.flatten moved).append_left b.storedSamples
      _ = b.storedSamples ++ moved ++ (lost.flatten ++ batches.flatten) := by simp

/-- Without a lost batch, the store holds exactly its rows and then its queue. -/
theorem Ledger.exact {held departed : List StoredSample} {b : Backend}
    (hl : Ledger held departed b []) : held = b.storedSamples ++ b.queuedSamples := by
  have hperm : departed ~ b.storedSamples := by simpa using hl.once
  have hdep : b.storedSamples = departed := hl.inOrder.eq_of_length hperm.length_eq.symm
  rw [hl.split, hdep]

/-- Two stores with the same rows, the same queue and the same batch size. -/
structure SameSamples (b b' : Backend) : Prop where
  rows : b'.rows = b.rows
  queued : b'.queued = b.queued
  batchSize : b'.batchSize = b.batchSize

theorem Ledger.same {held departed : List StoredSample} {b b' : Backend}
    {lost : List (List StoredSample)} (hl : Ledger held departed b lost) (hb : SameSamples b b') :
    Ledger held departed b' lost := by
  simpa using hl.enqueue [] (by simp [queuedSamples, hb.queued])
    (by simp [storedSamples, hb.rows])

/-! ### The store's calls -/

/-- Starting a run touches neither the rows nor the queue. -/
theorem startRun_same {b b' : Backend} {r : Run} {fresh : Uuid} {m : StoredRun}
    (h : b.startRun r fresh = .ok (m, b')) : SameSamples b b' := by
  unfold startRun at h
  cases hm : StoredRun.ofRun r fresh with
  | error e => simp [hm, bind, Except.bind] at h
  | ok m₀ =>
    rcases hdb : b.db with _ | db
    · simp [hm, hdb, bind, Except.bind, pure, Except.pure] at h
      obtain ⟨-, rfl⟩ := h
      exact ⟨by simp [rows, hdb], rfl, rfl⟩
    · cases hi : db.insertRun m₀ with
      | error e => simp [hm, hdb, hi, bind, Except.bind] at h
      | ok p =>
        simp [hm, hdb, hi, bind, Except.bind, pure, Except.pure] at h
        obtain ⟨-, rfl⟩ := h
        exact ⟨by simp [rows, hdb, Database.insertRun_samples hi], rfl, rfl⟩

/-- A recorded sample joins the back of the queue, stored for the active run. -/
theorem recordStep_ok {b b' : Backend} {s : StepSample} (h : b.recordStep s = .ok b') :
    ∃ r, b.run = some r ∧ b'.rows = b.rows ∧ b'.batchSize = b.batchSize ∧
      b'.queued = b.queued ++ [.ofSample r.id s] := by
  unfold recordStep at h
  rcases hr : b.run with _ | r
  · simp [hr] at h
  · rcases hq : b.queue with _ | q
    · simp [hr, hq] at h
    · simp only [hr, hq, Except.ok.injEq] at h
      subst h
      exact ⟨r, rfl, rfl, rfl, by simp [queued, hq]⟩

/-- Ending a run flushes with no run active; storing the run afterwards touches no sample. -/
theorem endRun_same {b : Backend} {r : StoredRun} (hr : b.run = some r)
    (summary : Option RunSummary) :
    SameSamples ({ b with run := none } : Backend).flush.2 (b.endRun summary).2 := by
  unfold endRun
  rw [hr]
  dsimp only
  rcases hf : ({ b with run := none } : Backend).flush with ⟨_ | _, bf⟩
  · exact ⟨rfl, rfl, rfl⟩
  · dsimp only
    rcases hdb : bf.db with _ | db
    · exact ⟨rfl, rfl, rfl⟩
    · dsimp only
      split
      · rename_i db' hsave
        exact ⟨by simp [rows, hdb, Database.saveRun_samples hsave], rfl, rfl⟩
      · exact ⟨rfl, rfl, rfl⟩

/-- A call on the store, from the simulation or from its writer. -/
inductive Call where
  /-- Starts a run; a run without a UUID gets `fresh`. -/
  | startRun (r : Run) (fresh : Uuid)
  /-- Records a sample. -/
  | record (s : StepSample)
  /-- The writer's flush on its tick. -/
  | tick
  /-- Ends the active run. -/
  | endRun (summary : Option RunSummary)
  /-- Closes the store. -/
  | close
  /-- The database fails: every later statement is refused. -/
  | failDb

/-- What a call did with the samples: the sample it accepted, and the outcome of the flush it
made, if it made one. -/
structure Trace where
  accepted : Option StoredSample := none
  flushed : Option (Except String Unit) := none

/-- The errors of the flushes a call made. -/
def Trace.failures (t : Trace) : List String := (t.flushed.map failure).getD []

/-- Makes a call on the store. -/
def Call.perform (b : Backend) : Call → Backend × Trace
  | .startRun r fresh => match b.startRun r fresh with
    | .ok (_, b') => (b', {})
    | .error _ => (b, {})
  | .record s => match b.recordStep s with
    | .ok b' => (b', { accepted := b.run.map fun r => .ofSample r.id s })
    | .error _ => (b, {})
  | .tick => (b.flush.2, { flushed := some b.flush.1 })
  | .endRun summary =>
    ((b.endRun summary).2, { flushed := b.run.map fun _ => ({ b with run := none } : Backend).flush.1 })
  | .close =>
    (b.close.2, { flushed := if b.queue.isNone || b.stopped then none else some b.close.1 })
  | .failDb => ({ b with db := b.db.map Database.close }, {})

/-- Makes calls one after another: the store after them, and what each did. -/
def performAll : Backend → List Call → Backend × List Trace
  | b, [] => (b, [])
  | b, c :: cs =>
    let r := c.perform b
    let rest := performAll r.1 cs
    (rest.1, r.2 :: rest.2)

/-- The samples the calls accepted, in order. -/
def acceptedOf (ts : List Trace) : List StoredSample := ts.filterMap Trace.accepted

/-- The errors of the flushes that failed, in order. -/
def failedFlushes (ts : List Trace) : List String := ts.flatMap Trace.failures

/-- A flush keeps the ledger, with the batch it lost. -/
theorem Ledger.flush {held departed : List StoredSample} {b b' : Backend}
    {lost : List (List StoredSample)} (hl : Ledger held departed b lost) (hb : SameSamples b b') :
    b'.flush.2.batchSize = b.batchSize ∧ b.rows <+: b'.flush.2.rows ∧
    ∃ departed' batches, Ledger held departed' b'.flush.2 (lost ++ batches) ∧
      List.Forall₂ (LostBatch b.batchSize) batches (failure b'.flush.1) := by
  obtain ⟨hsize, hpre, moved, batches, hq, hs, hlost⟩ := flush_ledger b'
  have hl' := hl.same hb
  refine ⟨hsize.trans hb.batchSize, hb.rows ▸ hpre, _, batches, hl'.move moved batches hq hs, ?_⟩
  rwa [← hb.batchSize]

/-- A call that leaves the rows, the queue and the batch size as they were, and accepts and
flushes nothing, keeps the ledger. -/
theorem Ledger.quiet {held departed : List StoredSample} {b b' : Backend}
    {lost : List (List StoredSample)} (hl : Ledger held departed b lost) (hb : SameSamples b b')
    {t : Trace} (ht : t = {}) :
    b'.batchSize = b.batchSize ∧ b.rows <+: b'.rows ∧
    ∃ departed' batches, Ledger (held ++ t.accepted.toList) departed' b' (lost ++ batches) ∧
      List.Forall₂ (LostBatch b.batchSize) batches t.failures := by
  subst ht
  exact ⟨hb.batchSize, hb.rows ▸ List.prefix_refl _, departed, [], by simpa using hl.same hb,
    by simp [Trace.failures]⟩

/-- One call keeps the ledger: the sample it accepted joins what the store held, and each flush
it made that failed lost one batch. The batch size stays, and so do the rows stored. -/
theorem Ledger.perform {held departed : List StoredSample} {b : Backend}
    {lost : List (List StoredSample)} (hl : Ledger held departed b lost) (c : Call) :
    (c.perform b).1.batchSize = b.batchSize ∧ b.rows <+: (c.perform b).1.rows ∧
    ∃ departed' batches,
      Ledger (held ++ (c.perform b).2.accepted.toList) departed' (c.perform b).1 (lost ++ batches) ∧
      List.Forall₂ (LostBatch b.batchSize) batches (c.perform b).2.failures := by
  cases c with
  | startRun r fresh =>
    -- a run that starts, or fails to, leaves the samples alone
    have hsame : SameSamples b (Call.perform b (.startRun r fresh)).1 := by
      simp only [Call.perform]
      split
      · rename_i h
        exact startRun_same h
      · exact ⟨rfl, rfl, rfl⟩
    have htrace : (Call.perform b (.startRun r fresh)).2 = {} := by
      simp only [Call.perform]
      split <;> rfl
    exact hl.quiet hsame htrace
  | record s =>
    cases h : b.recordStep s with
    | error e =>
      have hc : Call.perform b (.record s) = (b, {}) := by simp [Call.perform, h]
      rw [hc]
      exact hl.quiet ⟨rfl, rfl, rfl⟩ rfl
    | ok b' =>
      obtain ⟨r, hr, hrows, hsize, hq⟩ := recordStep_ok h
      refine ⟨by simp [Call.perform, h, hsize], by simp [Call.perform, h, hrows], departed, [], ?_,
        by simp [Call.perform, h, Trace.failures]⟩
      simpa [Call.perform, h, hr] using hl.enqueue [.ofSample r.id s]
        (by simp [queuedSamples, hq]) (by simp [storedSamples, hrows])
  | tick =>
    obtain ⟨hsize, hpre, departed', batches, hl', hlost⟩ := hl.flush ⟨rfl, rfl, rfl⟩
    exact ⟨hsize, hpre, departed', batches, by simpa [Call.perform] using hl', by simpa [Call.perform, Trace.failures] using hlost⟩
  | endRun summary =>
    rcases hr : b.run with _ | r
    · -- no run is active: nothing happens
      have hend : b.endRun summary = (.error "no active run", b) := by simp [endRun, hr]
      have hc : Call.perform b (.endRun summary) = (b, {}) := by simp [Call.perform, hend, hr]
      rw [hc]
      exact hl.quiet ⟨rfl, rfl, rfl⟩ rfl
    · obtain ⟨hsize, hpre, departed', batches, hl', hlost⟩ :=
        hl.flush (show SameSamples b { b with run := none } from ⟨rfl, rfl, rfl⟩)
      have hsame := endRun_same hr summary
      refine ⟨by simp [Call.perform, hsame.batchSize, hsize], by simpa [Call.perform, hsame.rows] using hpre,
        departed', batches, ?_, by simpa [Call.perform, hr, Trace.failures] using hlost⟩
      simpa [Call.perform, hr] using hl'.same hsame
  | close =>
    by_cases hc : (b.queue.isNone || b.stopped) = true
    · have hclose : b.close = (.ok (), b) := by simp [close, hc]
      have hcall : Call.perform b .close = (b, {}) := by simp [Call.perform, hclose, hc]
      rw [hcall]
      exact hl.quiet ⟨rfl, rfl, rfl⟩ rfl
    · have hclose : b.close = ({ b with stopped := true } : Backend).flush := by simp [close, hc]
      obtain ⟨hsize, hpre, departed', batches, hl', hlost⟩ :=
        hl.flush (show SameSamples b { b with stopped := true } from ⟨rfl, rfl, rfl⟩)
      refine ⟨by simp [Call.perform, hclose, hsize], by simpa [Call.perform, hclose] using hpre,
        departed', batches, by simpa [Call.perform, hclose] using hl', ?_⟩
      simpa [Call.perform, hc, hclose, Trace.failures] using hlost
  | failDb =>
    have hsame : SameSamples b (Call.perform b .failDb).1 := by
      refine ⟨?_, rfl, rfl⟩
      rcases hdb : b.db with _ | db <;> simp [Call.perform, rows, hdb]
    exact hl.quiet hsame rfl

/-- Calls one after another keep the ledger, with one lost batch for each failed flush, in order;
the batch size stays, and so do the rows stored. -/
theorem performAll_ledger : ∀ (calls : List Call) {held departed : List StoredSample} {b : Backend}
    {lost : List (List StoredSample)}, Ledger held departed b lost →
    (performAll b calls).1.batchSize = b.batchSize ∧ b.rows <+: (performAll b calls).1.rows ∧
    ∃ departed' batches,
      Ledger (held ++ acceptedOf (performAll b calls).2) departed' (performAll b calls).1
        (lost ++ batches) ∧
      List.Forall₂ (LostBatch b.batchSize) batches (failedFlushes (performAll b calls).2)
  | [], held, departed, b, lost, hl =>
    ⟨rfl, List.prefix_refl _, departed, [], by simpa [performAll, acceptedOf] using hl,
      by simp [performAll, failedFlushes]⟩
  | c :: cs, held, departed, b, lost, hl => by
    obtain ⟨hsize₁, hpre₁, departed₁, batches₁, hl₁, hlost₁⟩ := hl.perform c
    obtain ⟨hsize, hpre, departed', batches, hl', hlost⟩ := performAll_ledger cs hl₁
    refine ⟨hsize.trans hsize₁, hpre₁.trans hpre, departed', batches₁ ++ batches, ?_, ?_⟩
    · have hacc : acceptedOf (performAll b (c :: cs)).2 =
          (c.perform b).2.accepted.toList ++ acceptedOf (performAll (c.perform b).1 cs).2 := by
        cases h : (c.perform b).2.accepted <;> simp [performAll, acceptedOf, h]
      rw [hacc, ← List.append_assoc, ← List.append_assoc]
      exact hl'
    · have hfail : failedFlushes (performAll b (c :: cs)).2 =
          (c.perform b).2.failures ++ failedFlushes (performAll (c.perform b).1 cs).2 := by
        simp [performAll, failedFlushes]
      rw [hfail]
      exact List.rel_append hlost₁ (hsize₁ ▸ hlost)

/-- **Where the accepted samples go, over every sequence of calls.** Take the samples a store
holds, stored and queued, followed by the samples its calls accept, in order. They are the
samples that left the queue, then the samples still queued (`Pending` counts them). Those that
left are the stored rows, in the order they are stored, and the batches lost by the failed
flushes, each sample once; there is one lost batch for each failed flush, in order, of at least
one sample and at most `batchSize`, whose count its error names. The rows stored are never
touched. When no flush fails, the samples are exactly the stored rows, then the queue. -/
theorem samples_stored_lost_or_pending (b₀ : Backend) (calls : List Call) :
    let r := performAll b₀ calls
    let held := b₀.storedSamples ++ b₀.queuedSamples ++ acceptedOf r.2
    b₀.rows <+: r.1.rows ∧ r.1.pending = r.1.queuedSamples.length ∧
    (∃ departed lost, Ledger held departed r.1 lost ∧
      List.Forall₂ (LostBatch b₀.batchSize) lost (failedFlushes r.2)) ∧
    (failedFlushes r.2 = [] → held = r.1.storedSamples ++ r.1.queuedSamples) := by
  intro r held
  obtain ⟨-, hpre, departed, lost, hl, hlost⟩ := performAll_ledger calls (Ledger.start b₀)
  have hlen : r.1.pending = r.1.queuedSamples.length := by
    rw [pending_eq_length, queuedSamples, List.length_map]
  refine ⟨hpre, hlen, ⟨departed, lost, hl, hlost⟩, fun hnone => ?_⟩
  -- no failed flush means no lost batch
  have hnil : lost = [] := List.forall₂_nil_right_iff.1 (hnone ▸ hlost)
  subst hnil
  exact hl.exact

/-- A run that records one sample and ends normally stores it: no flush fails, and the sample is
the one row. -/
theorem ended_run_stores_its_sample :
    let run : Run :=
      { uuid := "", name := "s", frame := "", startTime := Instant.zero, timeStep := 0,
        duration := 0, home := ⟨0, 0, 0⟩ }
    let r := performAll (Backend.new (some {}) 0).init.2
      [.startRun run ⟨[]⟩, .record (StepSample.zero 1), .endRun none]
    failedFlushes r.2 = [] ∧
      (Backend.new (some {}) 0).init.2.storedSamples ++
          (Backend.new (some {}) 0).init.2.queuedSamples ++ acceptedOf r.2 =
        r.1.storedSamples ++ r.1.queuedSamples := by
  intro run r
  have hnone : failedFlushes r.2 = [] := by decide +kernel
  exact ⟨hnone, (samples_stored_lost_or_pending _ _).2.2.2 hnone⟩

/-- A sample recorded before the database fails is lost when the run ends: the store accepted
it, the flush that ends the run fails on its batch, and the sample is neither stored nor
pending. -/
theorem ended_run_loses_sample_when_database_fails :
    let run : Run :=
      { uuid := "", name := "s", frame := "", startTime := Instant.zero, timeStep := 0,
        duration := 0, home := ⟨0, 0, 0⟩ }
    let r := performAll (Backend.new (some {}) 0).init.2
      [.startRun run ⟨[]⟩, .record (StepSample.zero 1), .failDb, .endRun none]
    (acceptedOf r.2).length = 1 ∧
      failedFlushes r.2 = ["insert 1 samples: sql: database is closed"] ∧
      r.1.rows.length = 0 ∧ r.1.pending = 0 := by
  decide +kernel

end Backend

end SailSim.Store
