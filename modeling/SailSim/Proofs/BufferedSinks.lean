import Mathlib
import SailSim.Proofs.Delivery

/-!
# Buffered sinks over every run

A run of a dispatcher is any sequence of registrations, sends and closings
(`Dispatcher.Event`). A publication is one send to each sink in publish order, so publications
made at the same time are sends interleaved in any order; the consumers of the queues take their
turns whenever the handlers' state lets them (`Handlers.stalled`), which stands for every
schedule of the consumers. Every send is logged with the sink it reached and the sink's answer
(`Dispatcher.Sent`). What a registration *accepted* is the samples of its sends that answered no
error, in order (`Dispatcher.accepted`).

The handlers are seen through views `V i` (`Dispatcher.Records`): registration `i` appends
every sample it handles to `V i`, and no other registration touches it.

* `Dispatcher.happen_inv`: one event keeps `Dispatcher.Inv`: the dispatcher is well formed
  (distinct queue owners, a queue for every queued sink and none for a direct one, empty queues
  once closed), and each queue holds, behind what its registration has handled, exactly what it
  accepted.
* `Dispatcher.runEvents_inv`: so does every run.
* `Dispatcher.offer_queued_answer`: on an open dispatcher a blocking sink takes every sample, and
  a sink that does not block refuses one with `queue full: <name>` exactly when its queue already
  holds its capacity.
* `Dispatcher.publish_after_close`: once closed, a publication reaches no queued sink: every
  queue and every buffered registration's view stay as they were, each queued sink answers
  `dispatcher closed: <name>`, and the publication fails when there is a queued sink.
* `Dispatcher.buffered_sinks_deliver_accepted`: **buffered sinks lose, repeat and reorder
  nothing**, assembled from the above.
* `Dispatcher.direct_sink_served_after_close`: a direct sink is still handed samples after
  closing, and the publication then answers no error.
-/

namespace SailSim

namespace Dispatcher

variable {σ : Type}

/-! ### Runs -/

/-- One thing that happens to a dispatcher: a registration, a publication reaching its `k`-th
sink, or closing. -/
inductive Event where
  | register (name : String) (delivery : Delivery)
  | send (x : StepSample) (k : Nat)
  | close

/-- A send as it happened: the sink it reached, the sample and the sink's answer. -/
structure Sent where
  sink : SinkEntry
  sample : StepSample
  answer : Option String

variable (h : Handlers σ)

/-- What one event does: the dispatcher and the handlers' state after it, and the send it made,
if any. A send to a sink that does not exist does nothing. -/
def happen (acc : Dispatcher × σ) : Event → Dispatcher × σ × Option Sent
  | .register name delivery =>
    let r := register h acc.1 acc.2 name delivery
    (r.1, r.2.1, none)
  | .send x k =>
    match acc.1.sinks[k]? with
    | none => (acc.1, acc.2, none)
    | some e =>
      let r := offer h acc.1 acc.2 x e
      (r.1, r.2.1, some ⟨e, x, r.2.2⟩)
  | .close =>
    let r := close h acc.1 acc.2
    (r.1, r.2, none)

/-- Events in turn: the dispatcher, the handlers' state, and every send made, in order. -/
def runEvents : Dispatcher × σ → List Event → Dispatcher × σ × List Sent
  | acc, [] => (acc.1, acc.2, [])
  | acc, ev :: evs =>
    let r := happen h acc ev
    let rest := runEvents (r.1, r.2.1) evs
    (rest.1, rest.2.1, r.2.2.toList ++ rest.2.2)

/-- The samples registration `i` accepted, in order: those of its sends answered without
error. -/
def accepted (log : List Sent) (i : Nat) : List StepSample :=
  log.filterMap fun t => if t.sink.handler = i ∧ t.answer = none then some t.sample else none

@[simp] theorem accepted_nil (i : Nat) : accepted [] i = [] := rfl

@[simp] theorem accepted_append (log log' : List Sent) (i : Nat) :
    accepted (log ++ log') i = accepted log i ++ accepted log' i := by
  simp [accepted]

theorem accepted_single (t : Sent) (i : Nat) :
    accepted [t] i = if t.sink.handler = i ∧ t.answer = none then [t.sample] else [] := by
  by_cases ht : t.sink.handler = i ∧ t.answer = none <;> simp [accepted, ht]

/-- A send answered with an error accepts nothing. -/
theorem accepted_refused {t : Sent} (ht : t.answer.isSome) (i : Nat) : accepted [t] i = [] := by
  rw [accepted_single, if_neg]
  rintro ⟨-, hn⟩
  simp [hn] at ht

/-- A send to another registration accepts nothing for `i`. -/
theorem accepted_other {t : Sent} {i : Nat} (hi : t.sink.handler ≠ i) : accepted [t] i = [] := by
  rw [accepted_single, if_neg (fun hc => hi hc.1)]

/-! ### Well-formed dispatchers -/

/-- The registration that owns queue `k`, if there is such a queue. -/
def ownerAt (d : Dispatcher) (k : Nat) : Option Nat := (d.backlogs[k]?).map Backlog.handler

theorem ownerAt_of_getElem? {d : Dispatcher} {k : Nat} {b : Backlog}
    (hb : d.backlogs[k]? = some b) : d.ownerAt k = some b.handler := by
  simp [ownerAt, hb]

theorem SameShape.ownerAt {d d' : Dispatcher} (hs : SameShape d d') (k : Nat) :
    d'.ownerAt k = d.ownerAt k :=
  hs.owners k

/-- No registration owns two queues. -/
def Distinct (d : Dispatcher) : Prop :=
  ∀ j k i, d.ownerAt j = some i → d.ownerAt k = some i → j = k

theorem Distinct.of_sameShape {d d' : Dispatcher} (hd : Distinct d) (hs : SameShape d d') :
    Distinct d' := by
  intro j k i hj hk
  rw [hs.ownerAt] at hj hk
  exact hd j k i hj hk

/-- Two queues with the same owner are one queue. -/
theorem Distinct.eq {d : Dispatcher} (hd : Distinct d) {j k : Nat} {bj bk : Backlog}
    (hj : d.backlogs[j]? = some bj) (hk : d.backlogs[k]? = some bk) (he : bj.handler = bk.handler) :
    j = k :=
  hd j k _ (ownerAt_of_getElem? hj) (he ▸ ownerAt_of_getElem? hk)

/-- What every dispatcher a run reaches satisfies. -/
structure WellFormed (d : Dispatcher) : Prop where
  distinct : Distinct d
  /-- Queues belong to registrations made so far. -/
  owner_lt : ∀ k i, d.ownerAt k = some i → i < d.registrations
  sink_lt : ∀ e ∈ d.sinks.toList, e.handler < d.registrations
  /-- A queued sink has its queue. -/
  queued : ∀ e ∈ d.sinks.toList, e.delivery ≠ .direct → ∃ k, d.ownerAt k = some e.handler
  /-- A direct sink has none. -/
  direct : ∀ e ∈ d.sinks.toList, e.delivery = .direct → ∀ k, d.ownerAt k ≠ some e.handler
  /-- The queues of a closed dispatcher are empty. -/
  closed_empty : d.closed = true → ∀ k, pendingOf d k = []

/-- Each queue holds, behind what its registration has handled, what it accepted. -/
def Balanced (V : Nat → σ → List StepSample) (log : List Sent) (d : Dispatcher) (s : σ) : Prop :=
  ∀ (k : Nat) (b : Backlog), d.backlogs[k]? = some b →
    V b.handler s ++ b.pending = accepted log b.handler

/-- What a run keeps: a well-formed dispatcher, the handlers' invariant, balanced queues, and
nothing handled or accepted yet for the registrations still to come. -/
structure Inv (P : σ → Prop) (V : Nat → σ → List StepSample) (d : Dispatcher) (s : σ)
    (log : List Sent) : Prop where
  wf : WellFormed d
  keeps : P s
  balanced : Balanced V log d s
  fresh : ∀ i, d.registrations ≤ i → V i s = [] ∧ accepted log i = []

/-- The empty dispatcher, before any handler has run, is where every run starts. -/
theorem inv_empty {P : σ → Prop} {V : Nat → σ → List StepSample} {s : σ} (hs : P s)
    (hv : ∀ i, V i s = []) : Inv P V ({} : Dispatcher) s [] where
  wf := ⟨fun _ _ _ h => by simp [ownerAt] at h, fun _ _ h => by simp [ownerAt] at h,
    fun _ h => by simp at h, fun _ h => by simp at h, fun _ h => by simp at h,
    fun h => by simp at h⟩
  keeps := hs
  balanced := by intro _ _ h; simp at h
  fresh := fun i _ => ⟨hv i, rfl⟩

/-! ### Consumers' turns -/

section Drain

variable {P : σ → Prop} {V : Nat → σ → List StepSample}

theorem drainStep_registrations (acc : Dispatcher × σ) (k : Nat) :
    (drainStep h acc k).1.registrations = acc.1.registrations := by
  cases hb : acc.1.backlogs[k]? with
  | none => simp [drainStep, hb]
  | some b =>
    obtain ⟨rd, hstep⟩ := drainStep_some h hb
    rw [hstep]

theorem drainStep_getElem?_of_ne (acc : Dispatcher × σ) {j k : Nat} (hjk : j ≠ k) :
    (drainStep h acc k).1.backlogs[j]? = acc.1.backlogs[j]? := by
  cases hb : acc.1.backlogs[k]? with
  | none => simp [drainStep, hb]
  | some b =>
    obtain ⟨rd, hstep⟩ := drainStep_some h hb
    simp [hstep, Array.set!_eq_setIfInBounds, Ne.symm hjk]

/-- The turn of the consumer of queue `k`: it moves a prefix of the queue to the end of its
registration's view, and every other view stays. -/
theorem drainStep_views (hr : ∀ i, Records h.handle P (V i) i) {acc : Dispatcher × σ}
    (hs : P acc.2) {k : Nat} {b : Backlog} (hb : acc.1.backlogs[k]? = some b) :
    P (drainStep h acc k).2 ∧
      (∃ m, (drainStep h acc k).1.backlogs[k]? = some { b with pending := b.pending.drop m } ∧
        V b.handler (drainStep h acc k).2 = V b.handler acc.2 ++ b.pending.take m) ∧
      ∀ i, i ≠ b.handler → V i (drainStep h acc k).2 = V i acc.2 := by
  obtain ⟨rd, hstep⟩ := drainStep_some h hb
  obtain ⟨hs', m, hrest, hv⟩ := consume_view h (hr b.handler) b.handler b.pending acc.1 acc.2 hs
  have hlt : k < acc.1.backlogs.size := (Array.getElem?_eq_some_iff.1 hb).1
  refine ⟨by rw [hstep]; exact hs', ⟨m, ?_, ?_⟩, fun i hi => ?_⟩
  · simp [hstep, Array.set!_eq_setIfInBounds, hlt, hrest]
  · rw [hstep, hv, if_pos rfl]
  · obtain ⟨-, m', -, hv'⟩ := consume_view h (hr i) b.handler b.pending acc.1 acc.2 hs
    rw [hstep, hv', if_neg (Ne.symm hi), List.append_nil]

/-- A consumer's turn keeps the queues balanced. -/
theorem drainStep_balanced (hr : ∀ i, Records h.handle P (V i) i) {log : List Sent}
    {acc : Dispatcher × σ} (hd : Distinct acc.1) (hs : P acc.2)
    (hbal : Balanced V log acc.1 acc.2) (k : Nat) :
    P (drainStep h acc k).2 ∧ Balanced V log (drainStep h acc k).1 (drainStep h acc k).2 ∧
      ∀ i, (∀ j, acc.1.ownerAt j ≠ some i) → V i (drainStep h acc k).2 = V i acc.2 := by
  cases hb : acc.1.backlogs[k]? with
  | none =>
    have hid : drainStep h acc k = acc := by simp [drainStep, hb]
    exact ⟨by rw [hid]; exact hs, by rw [hid]; exact hbal, fun i _ => by rw [hid]⟩
  | some b =>
    obtain ⟨hs', ⟨m, hk, hvk⟩, hother⟩ := drainStep_views h hr hs hb
    refine ⟨hs', ?_, fun i hi => hother i fun he => hi k ?_⟩
    · intro j b' hj
      by_cases hjk : j = k
      · -- queue `k`: what was handled moved from its front to the end of the view
        subst hjk
        rw [hk] at hj
        cases hj
        rw [hvk, List.append_assoc, List.take_append_drop]
        exact hbal j b hb
      · -- another queue belongs to another registration, whose view did not move
        rw [drainStep_getElem?_of_ne h acc hjk] at hj
        have hne : b'.handler ≠ b.handler := fun he => hjk (hd.eq hj hb he)
        rw [hother _ hne]
        exact hbal j b' hj
    · rw [he]; exact ownerAt_of_getElem? hb

theorem foldl_drainStep_balanced (hr : ∀ i, Records h.handle P (V i) i) {log : List Sent} :
    ∀ (ks : List Nat) (acc : Dispatcher × σ), Distinct acc.1 → P acc.2 →
      Balanced V log acc.1 acc.2 →
      SameShape acc.1 (ks.foldl (drainStep h) acc).1 ∧
      (ks.foldl (drainStep h) acc).1.registrations = acc.1.registrations ∧
      P (ks.foldl (drainStep h) acc).2 ∧
      Balanced V log (ks.foldl (drainStep h) acc).1 (ks.foldl (drainStep h) acc).2 ∧
      ∀ i, (∀ j, acc.1.ownerAt j ≠ some i) → V i (ks.foldl (drainStep h) acc).2 = V i acc.2
  | [], _, _, hs, hbal => ⟨SameShape.refl _, rfl, hs, hbal, fun _ _ => rfl⟩
  | k :: ks, acc, hd, hs, hbal => by
    obtain ⟨hs₁, hbal₁, hv₁⟩ := drainStep_balanced h hr hd hs hbal k
    have hshape := drainStep_shape h acc k
    obtain ⟨hshape', hreg', hs', hbal', hv'⟩ :=
      foldl_drainStep_balanced hr ks _ (hd.of_sameShape hshape) hs₁ hbal₁
    refine ⟨hshape.trans hshape', by rw [List.foldl_cons, hreg', drainStep_registrations],
      hs', hbal', fun i hi => ?_⟩
    rw [List.foldl_cons, hv' i fun j => by rw [hshape.ownerAt]; exact hi j, hv₁ i hi]

/-- A drain keeps the queues balanced, the shape and the registrations, and touches only the
views of registrations that own a queue. -/
theorem drain_balanced (hr : ∀ i, Records h.handle P (V i) i) {log : List Sent}
    {d : Dispatcher} {s : σ} (hd : Distinct d) (hs : P s) (hbal : Balanced V log d s) :
    SameShape d (drain h d s).1 ∧ (drain h d s).1.registrations = d.registrations ∧
      P (drain h d s).2 ∧ Balanced V log (drain h d s).1 (drain h d s).2 ∧
      ∀ i, (∀ j, d.ownerAt j ≠ some i) → V i (drain h d s).2 = V i s := by
  rw [drain_eq_foldl]
  exact foldl_drainStep_balanced h hr _ (d, s) hd hs hbal

/-- A drain of a closed dispatcher whose queues are empty leaves them empty. -/
theorem drain_closed_empty {d : Dispatcher} (hd : ∀ k, pendingOf d k = []) (s : σ) (k : Nat) :
    pendingOf (drain h d s).1 k = [] := by
  rw [drain_of_empty h hd]
  exact hd k

end Drain

/-- A dispatcher with the shape and registrations of a well-formed one is well formed, as long
as its queues are empty when it is closed. -/
theorem WellFormed.of_sameShape {d d' : Dispatcher} (hw : WellFormed d) (hs : SameShape d d')
    (hreg : d'.registrations = d.registrations)
    (hc : d'.closed = true → ∀ k, pendingOf d' k = []) : WellFormed d' where
  distinct := hw.distinct.of_sameShape hs
  owner_lt := fun k i hk => by rw [hs.ownerAt] at hk; rw [hreg]; exact hw.owner_lt k i hk
  sink_lt := by rw [hs.sinks, hreg]; exact hw.sink_lt
  queued := fun e he hd => by
    obtain ⟨k, hk⟩ := hw.queued e (hs.sinks ▸ he) hd
    exact ⟨k, by rw [hs.ownerAt]; exact hk⟩
  direct := fun e he hd k => by rw [hs.ownerAt]; exact hw.direct e (hs.sinks ▸ he) hd k
  closed_empty := hc

/-- Only the counts changed. -/
theorem SameShape.withReadings (d : Dispatcher) (rd : Telemetry.Readings) :
    SameShape d { d with readings := rd } :=
  ⟨rfl, rfl, fun _ => rfl⟩

/-! ### Registering -/

/-- The sinks after `entry` is registered: it takes the place of the sink of its name, or comes
last. -/
def withSink (d : Dispatcher) (entry : SinkEntry) : Dispatcher :=
  match d.sinks.findIdx? (fun (e : SinkEntry) => e.name == entry.name) with
  | some i => { d with sinks := d.sinks.set! i entry }
  | none => { d with sinks := d.sinks.push entry }

/-- The queues after registration `handler` is queued under `name`: the queue that stood for the
name stops being current, and a new empty one comes last. -/
def openQueue (d : Dispatcher) (name : String) (handler : Nat) : Dispatcher :=
  let kept := d.backlogs.map fun (b : Backlog) =>
    if b.current && b.name == name then { b with current := false } else b
  { d with backlogs := kept.push ⟨name, handler, [], true⟩ }

theorem register_direct (d : Dispatcher) (s : σ) (name : String) :
    register h d s name .direct =
      (withSink { d with registrations := d.registrations + 1 } ⟨name, d.registrations, .direct⟩,
        s, d.registrations) := rfl

theorem register_queued (d : Dispatcher) (s : σ) (name : String) (cap : Nat) (blocking : Bool) :
    register h d s name (.queued cap blocking) =
      ((withSink (drain h (openQueue { d with registrations := d.registrations + 1 } name
          d.registrations) s).1 ⟨name, d.registrations, .queued cap blocking⟩),
        (drain h (openQueue { d with registrations := d.registrations + 1 } name
          d.registrations) s).2, d.registrations) := rfl

@[simp] theorem withSink_backlogs (d : Dispatcher) (e : SinkEntry) :
    (withSink d e).backlogs = d.backlogs := by
  unfold withSink; split <;> rfl

@[simp] theorem withSink_closed (d : Dispatcher) (e : SinkEntry) :
    (withSink d e).closed = d.closed := by
  unfold withSink; split <;> rfl

@[simp] theorem withSink_registrations (d : Dispatcher) (e : SinkEntry) :
    (withSink d e).registrations = d.registrations := by
  unfold withSink; split <;> rfl

theorem ownerAt_withSink (d : Dispatcher) (e : SinkEntry) (k : Nat) :
    (withSink d e).ownerAt k = d.ownerAt k := by
  simp [ownerAt]

theorem pendingOf_withSink (d : Dispatcher) (e : SinkEntry) (k : Nat) :
    pendingOf (withSink d e) k = pendingOf d k := by
  simp [pendingOf]

/-- A sink after a registration is the registered one or one that was there before. -/
theorem mem_withSink {d : Dispatcher} {e e' : SinkEntry} (he : e' ∈ (withSink d e).sinks.toList) :
    e' = e ∨ e' ∈ d.sinks.toList := by
  unfold withSink at he
  split at he
  · rw [Array.set!_eq_setIfInBounds, Array.toList_setIfInBounds] at he
    exact (List.mem_or_eq_of_mem_set he).symm
  · rw [Array.toList_push, List.mem_append, List.mem_singleton] at he
    exact he.symm

theorem ownerAt_openQueue (d : Dispatcher) (name : String) (r k : Nat) :
    (openQueue d name r).ownerAt k = if k = d.backlogs.size then some r else d.ownerAt k := by
  simp only [ownerAt, openQueue, Array.getElem?_push, Array.size_map, Array.getElem?_map]
  split
  · rfl
  · cases d.backlogs[k]? with
    | none => rfl
    | some b => simp only [Option.map_some]; split <;> rfl

theorem pendingOf_openQueue (d : Dispatcher) (name : String) (r k : Nat) :
    pendingOf (openQueue d name r) k = if k = d.backlogs.size then [] else pendingOf d k := by
  simp only [pendingOf, openQueue, Array.getElem?_push, Array.size_map, Array.getElem?_map]
  split
  · rfl
  · cases d.backlogs[k]? with
    | none => rfl
    | some b => simp only [Option.map_some]; split <;> rfl

/-- A queue after opening one is the new empty queue, or an old queue with its owner and its
samples. -/
theorem getElem?_openQueue {d : Dispatcher} {name : String} {r k : Nat} {b : Backlog}
    (hb : (openQueue d name r).backlogs[k]? = some b) :
    (k = d.backlogs.size ∧ b.handler = r ∧ b.pending = []) ∨
      ∃ b₀, d.backlogs[k]? = some b₀ ∧ b.handler = b₀.handler ∧ b.pending = b₀.pending := by
  simp only [openQueue, Array.getElem?_push, Array.size_map, Array.getElem?_map] at hb
  split at hb
  · cases hb
    exact .inl ⟨by assumption, rfl, rfl⟩
  · cases hb₀ : d.backlogs[k]? with
    | none => simp [hb₀] at hb
    | some b₀ =>
      rw [hb₀, Option.map_some, Option.some.injEq] at hb
      subst hb
      refine .inr ⟨b₀, rfl, ?_, ?_⟩ <;> split <;> rfl

theorem ownerAt_isSome {d : Dispatcher} {k i : Nat} (hk : d.ownerAt k = some i) :
    k < d.backlogs.size := by
  by_contra hlt
  simp [ownerAt, Array.getElem?_eq_none (Nat.le_of_not_lt hlt)] at hk

section Steps

variable {P : σ → Prop} {V : Nat → σ → List StepSample}

/-- Registering a direct sink keeps the invariant: it only takes a fresh number. -/
theorem register_direct_inv {d : Dispatcher} {s : σ} {log : List Sent} (hi : Inv P V d s log)
    (name : String) :
    Inv P V (register h d s name .direct).1 (register h d s name .direct).2.1 log := by
  rw [register_direct]
  have hw := hi.wf
  have hnew : ∀ k, d.ownerAt k ≠ some d.registrations := fun k hk =>
    Nat.lt_irrefl _ (hw.owner_lt k _ hk)
  refine ⟨⟨?_, ?_, ?_, ?_, ?_, ?_⟩, hi.keeps, ?_, ?_⟩
  · intro j k i hj hk
    rw [ownerAt_withSink] at hj hk
    exact hw.distinct j k i hj hk
  · intro k i hk
    rw [ownerAt_withSink] at hk
    simpa using Nat.lt_succ_of_lt (hw.owner_lt k i hk)
  · intro e he
    rcases mem_withSink he with rfl | he
    · simp
    · simpa using Nat.lt_succ_of_lt (hw.sink_lt e he)
  · intro e he hd
    rcases mem_withSink he with rfl | he
    · exact absurd rfl hd
    · obtain ⟨k, hk⟩ := hw.queued e he hd
      exact ⟨k, by rw [ownerAt_withSink]; exact hk⟩
  · intro e he hd k
    rw [ownerAt_withSink]
    rcases mem_withSink he with rfl | he
    · exact hnew k
    · exact hw.direct e he hd k
  · intro hc k
    rw [pendingOf_withSink]
    exact hw.closed_empty (by simpa using hc) k
  · intro k b hb
    exact hi.balanced k b (by simpa using hb)
  · intro i hi'
    exact hi.fresh i (by simp at hi'; omega)

/-- Registering a queued sink keeps the invariant: its new queue is empty and its registration
has accepted nothing, and the drain that follows keeps every other queue balanced. -/
theorem register_queued_inv (hr : ∀ i, Records h.handle P (V i) i) {d : Dispatcher} {s : σ}
    {log : List Sent} (hi : Inv P V d s log) (name : String) (cap : Nat) (blocking : Bool) :
    Inv P V (register h d s name (.queued cap blocking)).1
      (register h d s name (.queued cap blocking)).2.1 log := by
  rw [register_queued]
  have hw := hi.wf
  set r := d.registrations
  set d₂ := openQueue { d with registrations := r + 1 } name r
  have hown : ∀ k, d₂.ownerAt k = if k = d.backlogs.size then some r else d.ownerAt k :=
    fun k => ownerAt_openQueue _ name r k
  have hnew : ∀ k, d.ownerAt k ≠ some r := fun k hk => Nat.lt_irrefl _ (hw.owner_lt k _ hk)
  have hsize : ∀ k i, d.ownerAt k = some i → k ≠ d.backlogs.size := fun k i hk he =>
    Nat.lt_irrefl _ (he ▸ ownerAt_isSome hk)
  have hd₂ : Distinct d₂ := by
    intro j k i hj hk
    rw [hown] at hj hk
    split at hj <;> split at hk
    · omega
    · cases hj; exact absurd hk (hnew k)
    · cases hk; exact absurd hj (hnew j)
    · exact hw.distinct j k i hj hk
  have hbal₂ : Balanced V log d₂ s := by
    intro k b hb
    rcases getElem?_openQueue hb with ⟨-, hh, hp⟩ | ⟨b₀, hb₀, hh, hp⟩
    · rw [hh, hp, List.append_nil, (hi.fresh r le_rfl).1, (hi.fresh r le_rfl).2]
    · rw [hh, hp]; exact hi.balanced k b₀ hb₀
  obtain ⟨hshape, hreg, hs', hbal', hframe⟩ := drain_balanced h hr hd₂ hi.keeps hbal₂
  have hown' : ∀ k, (drain h d₂ s).1.ownerAt k = d₂.ownerAt k := hshape.ownerAt
  have hreg' : (drain h d₂ s).1.registrations = r + 1 := hreg
  refine ⟨⟨?_, ?_, ?_, ?_, ?_, ?_⟩, hs', ?_, ?_⟩
  · intro j k i hj hk
    rw [ownerAt_withSink, hown'] at hj hk
    exact hd₂ j k i hj hk
  · intro k i hk
    rw [ownerAt_withSink, hown', hown] at hk
    rw [withSink_registrations, hreg']
    split at hk
    · cases hk; omega
    · exact Nat.lt_succ_of_lt (hw.owner_lt k i hk)
  · intro e he
    rw [withSink_registrations, hreg']
    rcases mem_withSink he with rfl | he
    · exact Nat.lt_succ_self r
    · exact Nat.lt_succ_of_lt (hw.sink_lt e (hshape.sinks ▸ he))
  · intro e he hdir
    rcases mem_withSink he with rfl | he
    · exact ⟨d.backlogs.size, by rw [ownerAt_withSink, hown', hown, if_pos rfl]⟩
    · obtain ⟨k, hk⟩ := hw.queued e (hshape.sinks ▸ he) hdir
      exact ⟨k, by rw [ownerAt_withSink, hown', hown, if_neg (hsize k _ hk)]; exact hk⟩
  · intro e he hdir k
    rcases mem_withSink he with rfl | he
    · exact absurd hdir (by simp)
    · rw [ownerAt_withSink, hown', hown]
      split
      · exact fun hk => Nat.lt_irrefl _ (Option.some.inj hk ▸ hw.sink_lt e (hshape.sinks ▸ he))
      · exact hw.direct e (hshape.sinks ▸ he) hdir k
  · -- closing already emptied every queue, and the new one is empty: the drain has nothing to do
    intro hc k
    have hc' : d.closed = true := by
      dsimp only at hc
      rw [withSink_closed, hshape.closed] at hc
      exact hc
    have hempty : ∀ k, pendingOf d₂ k = [] := fun k => by
      rw [pendingOf_openQueue]
      split
      · rfl
      · exact hw.closed_empty hc' k
    rw [pendingOf_withSink]
    exact drain_closed_empty h hempty s k
  · intro k b hb
    exact hbal' k b (by simpa using hb)
  · intro i hi'
    rw [withSink_registrations, hreg'] at hi'
    have hnot : ∀ j, d₂.ownerAt j ≠ some i := fun j hj => by
      rw [hown] at hj
      split at hj
      · cases hj; omega
      · have := hw.owner_lt j i hj; omega
    rw [hframe i hnot]
    exact hi.fresh i (by omega)

end Steps

/-! ### Sending and closing -/

/-- With distinct owners, the queue that a sink of registration `b.handler` looks for is
`b`. -/
theorem findQueue_of_distinct {d : Dispatcher} (hd : Distinct d) {k : Nat} {b : Backlog}
    (hb : d.backlogs[k]? = some b) :
    ((d.backlogs.findIdx? fun (b' : Backlog) => b'.handler == b.handler).bind
      fun i => (d.backlogs[i]?).map (i, ·)) = some (k, b) := by
  obtain ⟨hlt, hget⟩ := Array.getElem?_eq_some_iff.1 hb
  have hfind : d.backlogs.findIdx? (fun (b' : Backlog) => b'.handler == b.handler) = some k := by
    rw [Array.findIdx?_eq_some_iff_getElem]
    refine ⟨hlt, by simp [hget], fun j hj he => ?_⟩
    have hjk := hd.eq (Array.getElem?_eq_getElem (Nat.lt_trans hj hlt)) hb (by simpa using he)
    omega
  simp [hfind, hb]

/-- A send to a queued sink of an open dispatcher: the sample joins the sink's queue, and the
consumers take their turns, when the queue has room or the sink blocks; otherwise it is dropped
and counted. -/
theorem offer_queued_open {d : Dispatcher} (hd : Distinct d) (hopen : d.closed = false) (s : σ)
    (x : StepSample) {e : SinkEntry} {cap : Nat} {blocking : Bool}
    (hdel : e.delivery = .queued cap blocking) {k : Nat} {b : Backlog}
    (hb : d.backlogs[k]? = some b) (hbe : b.handler = e.handler) :
    offer h d s x e =
      if (decide (b.pending.length < cap) || blocking) = true then
        ((drain h { d with backlogs := d.backlogs.set! k { b with pending := b.pending ++ [x] } }
            s).1,
          (drain h { d with backlogs := d.backlogs.set! k { b with pending := b.pending ++ [x] } }
            s).2, none)
      else ({ d with readings := d.readings.add "dispatcher.samples.dropped" 1 }, s,
        some ("queue full: " ++ e.name)) := by
  simp only [offer, hdel]
  rw [if_neg (by simp [hopen]), ← hbe, findQueue_of_distinct hd hb]

section Steps

variable {P : σ → Prop} {V : Nat → σ → List StepSample}

/-- A send keeps the invariant, the logged send included: a direct sink's handler leaves every
queued registration's view alone, and a sample a queue takes is accepted by its registration. -/
theorem offer_inv (hr : ∀ i, Records h.handle P (V i) i) {d : Dispatcher} {s : σ}
    {log : List Sent} (hi : Inv P V d s log) {e : SinkEntry} (he : e ∈ d.sinks.toList)
    (x : StepSample) :
    Inv P V (offer h d s x e).1 (offer h d s x e).2.1 (log ++ [⟨e, x, (offer h d s x e).2.2⟩]) := by
  have hw := hi.wf
  have hlt : e.handler < d.registrations := hw.sink_lt e he
  -- a send that changes nothing and is refused keeps the invariant
  have hrefused : ∀ (rd : Telemetry.Readings) (m : String),
      Inv P V { d with readings := rd } s (log ++ [⟨e, x, some m⟩]) := fun rd m =>
    ⟨hw.of_sameShape (SameShape.withReadings d rd) rfl hw.closed_empty, hi.keeps,
      fun k b hb => by rw [accepted_append, accepted_refused rfl, List.append_nil]; exact hi.balanced k b hb,
      fun i hi' => by
        rw [accepted_append, accepted_refused rfl, List.append_nil]; exact hi.fresh i hi'⟩
  cases hdel : e.delivery with
  | direct =>
    -- the handler runs at once; it is not the owner of any queue
    simp only [offer, hdel]
    rw [handleCounted_eq]
    have hne : ∀ (k : Nat) (b : Backlog), d.backlogs[k]? = some b → e.handler ≠ b.handler :=
      fun k b hb he' =>
      hw.direct e he hdel k (he' ▸ ownerAt_of_getElem? hb)
    refine ⟨hw.of_sameShape (SameShape.withReadings d _) rfl hw.closed_empty,
      (hr 0).keeps s e.handler x hi.keeps, fun k b hb => ?_, fun i hi' => ?_⟩
    · rw [(hr b.handler).leaves s e.handler x hi.keeps (hne k b hb), accepted_append,
        accepted_other (hne k b hb), List.append_nil]
      exact hi.balanced k b hb
    · dsimp only at hi'
      have hie : e.handler ≠ i := by omega
      rw [(hr i).leaves s e.handler x hi.keeps hie, accepted_append, accepted_other hie,
        List.append_nil]
      exact hi.fresh i hi'
  | queued cap blocking =>
    cases hc : d.closed
    case true =>
      have hoff : offer h d s x e = (d, s, some ("dispatcher closed: " ++ e.name)) := by
        simp [offer, hdel, hc]
      rw [hoff]
      exact hrefused d.readings _
    case false =>
      obtain ⟨k, hk⟩ := hw.queued e he (by simp [hdel])
      obtain ⟨b, hb, hbe⟩ := Option.map_eq_some_iff.1 hk
      rw [offer_queued_open h hw.distinct hc s x hdel hb hbe]
      split
      case isFalse => exact hrefused _ _
      case isTrue =>
        -- the sample joins queue `k`, which its registration has now accepted; then a drain
        set d₁ : Dispatcher :=
          { d with backlogs := d.backlogs.set! k { b with pending := b.pending ++ [x] } }
        have hlt' : k < d.backlogs.size := (Array.getElem?_eq_some_iff.1 hb).1
        have hget : ∀ j, d₁.backlogs[j]? =
            if j = k then some { b with pending := b.pending ++ [x] } else d.backlogs[j]? := by
          intro j
          by_cases hjk : j = k
          · subst hjk; simp [d₁, Array.set!_eq_setIfInBounds, hlt']
          · simp [d₁, Array.set!_eq_setIfInBounds, Ne.symm hjk, hjk]
        have hshape₁ : SameShape d d₁ := by
          refine ⟨rfl, rfl, fun j => ?_⟩
          rw [hget]
          split
          · subst_vars; simp [hb]
          · rfl
        have hbal₁ : Balanced V (log ++ [⟨e, x, none⟩]) d₁ s := by
          intro j b' hj
          rw [hget] at hj
          split at hj
          · cases hj
            rw [accepted_append, accepted_single, if_pos ⟨hbe.symm, rfl⟩, ← List.append_assoc]
            exact congrArg (· ++ [x]) (hi.balanced k b hb)
          · have hne : e.handler ≠ b'.handler := fun he' => by
              rename_i hjk
              exact hjk (hw.distinct.eq hj hb (he'.symm.trans hbe.symm))
            rw [accepted_append, accepted_other hne, List.append_nil]
            exact hi.balanced j b' hj
        obtain ⟨hshape, hreg, hs', hbal', hframe⟩ :=
          drain_balanced h hr (hw.distinct.of_sameShape hshape₁) hi.keeps hbal₁
        refine ⟨hw.of_sameShape (hshape₁.trans hshape) hreg ?_, hs', hbal', fun i hi' => ?_⟩
        · intro hc'
          rw [hshape.closed] at hc'
          simp [d₁, hc] at hc'
        · dsimp only at hi'
          rw [hreg, show d₁.registrations = d.registrations from rfl] at hi'
          have hnot : ∀ j, d₁.ownerAt j ≠ some i := fun j hj => by
            rw [hshape₁.ownerAt] at hj
            have := hw.owner_lt j i hj
            omega
          have hie : e.handler ≠ i := by omega
          rw [hframe i hnot, accepted_append, accepted_other hie, List.append_nil]
          exact hi.fresh i hi'

/-- Closing keeps the invariant and empties every queue: the consumers, busy or not, finish
them. -/
theorem close_inv (hr : ∀ i, Records h.handle P (V i) i) {d : Dispatcher} {s : σ}
    {log : List Sent} (hi : Inv P V d s log) :
    Inv P V (close h d s).1 (close h d s).2 log ∧ (close h d s).1.closed = true := by
  cases hc : d.closed
  case true =>
    have hid : close h d s = (d, s) := by simp [close, hc]
    rw [hid]
    exact ⟨hi, hc⟩
  case false =>
    let h' : Handlers σ := { h with stalled := fun _ _ => false }
    have hclose : close h d s = drain h' { d with closed := true } s := by simp [close, hc, h']
    obtain ⟨hshape, hreg, hs', hbal', hframe⟩ :=
      drain_balanced h' (d := { d with closed := true }) hr hi.wf.distinct hi.keeps hi.balanced
    have hempty := pendingOf_drain_of_ready h' (fun _ _ => rfl) { d with closed := true } s
    rw [hclose]
    refine ⟨⟨⟨(show Distinct { d with closed := true } from hi.wf.distinct).of_sameShape hshape,
      fun k i hk => ?_, ?_, fun e he hd => ?_,
      fun e he hd k => ?_, fun _ => hempty⟩, hs', hbal', fun i hi' => ?_⟩, ?_⟩
    · rw [hshape.ownerAt] at hk; rw [hreg]; exact hi.wf.owner_lt k i hk
    · rw [hshape.sinks, hreg]; exact hi.wf.sink_lt
    · obtain ⟨k, hk⟩ := hi.wf.queued e (hshape.sinks ▸ he) hd
      exact ⟨k, by rw [hshape.ownerAt]; exact hk⟩
    · rw [hshape.ownerAt]; exact hi.wf.direct e (hshape.sinks ▸ he) hd k
    · rw [hreg] at hi'
      dsimp only at hi'
      rw [hframe i fun j hj => by have := hi.wf.owner_lt j i hj; omega]
      exact hi.fresh i hi'
    · rw [hshape.closed]

/-- **One event keeps the invariant.** -/
theorem happen_inv (hr : ∀ i, Records h.handle P (V i) i) {d : Dispatcher} {s : σ}
    {log : List Sent} (hi : Inv P V d s log) (ev : Event) :
    Inv P V (happen h (d, s) ev).1 (happen h (d, s) ev).2.1
      (log ++ (happen h (d, s) ev).2.2.toList) := by
  cases ev with
  | register name delivery =>
    cases delivery with
    | direct => simpa [happen] using register_direct_inv h hi name
    | queued cap blocking => simpa [happen] using register_queued_inv h hr hi name cap blocking
  | send x k =>
    cases he : d.sinks[k]? with
    | none => simpa [happen, he] using hi
    | some e =>
      have hmem : e ∈ d.sinks.toList := Array.mem_toList_iff.2 (Array.mem_of_getElem? he)
      simpa [happen, he] using offer_inv h hr hi hmem x
  | close => simpa [happen] using (close_inv h hr hi).1

/-- **Every run keeps the invariant.** -/
theorem runEvents_inv (hr : ∀ i, Records h.handle P (V i) i) :
    ∀ (evs : List Event) (d : Dispatcher) (s : σ) (log : List Sent), Inv P V d s log →
      Inv P V (runEvents h (d, s) evs).1 (runEvents h (d, s) evs).2.1
        (log ++ (runEvents h (d, s) evs).2.2)
  | [], _, _, _, hi => by simpa [runEvents] using hi
  | ev :: evs, d, s, log, hi => by
    have h₁ := happen_inv h hr hi ev
    have h₂ := runEvents_inv hr evs _ _ _ h₁
    simpa [runEvents, List.append_assoc] using h₂

end Steps

/-! ### What a send answers -/

/-- On an open, well-formed dispatcher a queued sink answers a send by its queue alone: a
blocking sink takes every sample, and one that does not block refuses a sample, with
`queue full: <name>`, exactly when its queue already holds its capacity. -/
theorem offer_queued_answer {d : Dispatcher} (hw : WellFormed d) (hopen : d.closed = false)
    {e : SinkEntry} (he : e ∈ d.sinks.toList) {cap : Nat} {blocking : Bool}
    (hdel : e.delivery = .queued cap blocking) :
    ∃ (k : Nat) (b : Backlog), d.backlogs[k]? = some b ∧ b.handler = e.handler ∧
      ∀ (s : σ) (x : StepSample), (offer h d s x e).2.2 =
        if blocking = true ∨ b.pending.length < cap then none
        else some ("queue full: " ++ e.name) := by
  obtain ⟨k, hk⟩ := hw.queued e he (by simp [hdel])
  obtain ⟨b, hb, hbe⟩ := Option.map_eq_some_iff.1 hk
  refine ⟨k, b, hb, hbe, fun s x => ?_⟩
  rw [offer_queued_open h hw.distinct hopen s x hdel hb hbe]
  by_cases htake : blocking = true ∨ b.pending.length < cap
  · rw [if_pos htake, if_pos (by rcases htake with h | h <;> simp [h])]
  · simp only [not_or, Bool.not_eq_true, Nat.not_lt] at htake
    rw [if_neg (by simp [htake.1, Nat.not_lt.2 htake.2]), if_neg (by simp [htake.1, Nat.not_lt.2 htake.2])]

/-- On a closed dispatcher a queued sink refuses every send and nothing changes. -/
theorem offer_closed_queued {d : Dispatcher} (hc : d.closed = true) (s : σ) (x : StepSample)
    {e : SinkEntry} (hdel : e.delivery ≠ .direct) :
    offer h d s x e = (d, s, some ("dispatcher closed: " ++ e.name)) := by
  cases hd : e.delivery with
  | direct => exact absurd hd hdel
  | queued cap blocking => simp [offer, hd, hc]

theorem publish_eq (d : Dispatcher) (s : σ) (x : StepSample) :
    publish h d s x =
      ((d.sinks.toList.foldl (publishStep h x) (d, s, [])).1,
        (d.sinks.toList.foldl (publishStep h x) (d, s, [])).2.1,
        if (d.sinks.toList.foldl (publishStep h x) (d, s, [])).2.2.isEmpty then none
        else some ("\n".intercalate (d.sinks.toList.foldl (publishStep h x) (d, s, [])).2.2)) := by
  rw [Array.foldl_toList]
  rfl

section Closed

variable {P : σ → Prop} {V : Nat → σ → List StepSample}

/-- The sinks' turns of a publication to a closed dispatcher: no queue changes, no buffered
registration's view changes, and every queued sink adds an error. -/
theorem foldl_publishStep_closed (hr : ∀ i, Records h.handle P (V i) i) {d : Dispatcher}
    (hw : WellFormed d) (x : StepSample) :
    ∀ (es : List SinkEntry) (acc : Dispatcher × σ × List String),
      (∀ e ∈ es, e ∈ d.sinks.toList) → acc.1.backlogs = d.backlogs → acc.1.closed = true →
      P acc.2.1 →
      (es.foldl (publishStep h x) acc).1.backlogs = d.backlogs ∧
      (es.foldl (publishStep h x) acc).1.closed = true ∧
      P (es.foldl (publishStep h x) acc).2.1 ∧
      (∀ (k : Nat) (b : Backlog), d.backlogs[k]? = some b →
        V b.handler (es.foldl (publishStep h x) acc).2.1 = V b.handler acc.2.1) ∧
      (acc.2.2 ≠ [] ∨ (∃ e ∈ es, e.delivery ≠ .direct) →
        (es.foldl (publishStep h x) acc).2.2 ≠ [])
  | [], acc, _, hb, hc, hs => ⟨hb, hc, hs, fun _ _ _ => rfl, fun h' => by simpa using h'⟩
  | e :: es, acc, hes, hb, hc, hs => by
    have he : e ∈ d.sinks.toList := hes e (List.mem_cons_self ..)
    -- one sink's turn: a direct sink's handler runs, a queued sink refuses
    have hstep : (publishStep h x acc e).1.backlogs = d.backlogs ∧
        (publishStep h x acc e).1.closed = true ∧ P (publishStep h x acc e).2.1 ∧
        (∀ (k : Nat) (b : Backlog), d.backlogs[k]? = some b →
          V b.handler (publishStep h x acc e).2.1 = V b.handler acc.2.1) ∧
        (acc.2.2 ≠ [] ∨ e.delivery ≠ .direct → (publishStep h x acc e).2.2 ≠ []) := by
      cases hdel : e.delivery with
      | direct =>
        simp only [publishStep, offer, hdel]
        rw [handleCounted_eq]
        refine ⟨hb, hc, (hr 0).keeps _ _ _ hs, fun k b hk => ?_, fun h' => ?_⟩
        · exact (hr b.handler).leaves _ _ _ hs fun he' =>
            hw.direct e he hdel k (he' ▸ ownerAt_of_getElem? hk)
        · rcases h' with h' | h'
          · split <;> simp [h']
          · exact absurd rfl h'
      | queued cap blocking =>
        have hoff := offer_closed_queued h hc acc.2.1 x (e := e) (by simp [hdel])
        simp only [publishStep, hoff]
        exact ⟨hb, hc, hs, by simp, by simp⟩
    obtain ⟨hb₁, hc₁, hs₁, hv₁, herr₁⟩ := hstep
    obtain ⟨hb₂, hc₂, hs₂, hv₂, herr₂⟩ := foldl_publishStep_closed hr hw x es
      (publishStep h x acc e) (fun e' he' => hes e' (List.mem_cons_of_mem _ he')) hb₁ hc₁ hs₁
    refine ⟨hb₂, hc₂, hs₂, fun k b hk => (hv₂ k b hk).trans (hv₁ k b hk), fun h' => herr₂ ?_⟩
    rcases h' with h' | ⟨e', he', hd'⟩
    · exact .inl (herr₁ (.inl h'))
    · rcases List.mem_cons.1 he' with rfl | he'
      · exact .inl (herr₁ (.inr hd'))
      · exact .inr ⟨e', he', hd'⟩

/-- A publication to a closed dispatcher reaches no queued sink: it changes no queue and no
buffered registration's view, and it fails when there is a queued sink. -/
theorem publish_after_close (hr : ∀ i, Records h.handle P (V i) i) {d : Dispatcher}
    (hw : WellFormed d) (hc : d.closed = true) {s : σ} (hs : P s) (x : StepSample) :
    (publish h d s x).1.backlogs = d.backlogs ∧
      (∀ (k : Nat) (b : Backlog), d.backlogs[k]? = some b → V b.handler (publish h d s x).2.1 = V b.handler s) ∧
      ((∃ e ∈ d.sinks.toList, e.delivery ≠ .direct) → (publish h d s x).2.2.isSome) := by
  obtain ⟨hb, -, -, hv, herr⟩ :=
    foldl_publishStep_closed h hr hw x d.sinks.toList (d, s, []) (fun _ he => he) rfl hc hs
  rw [publish_eq]
  refine ⟨hb, hv, fun hq => ?_⟩
  have hne : (d.sinks.toList.foldl (publishStep h x) (d, s, [])).2.2.isEmpty = false :=
    List.isEmpty_eq_false_iff.2 (herr (.inr hq))
  rw [hne]
  rfl

end Closed

/-! ### Buffered sinks over a run -/

section Run

variable {P : σ → Prop} {V : Nat → σ → List StepSample}

/-- **Buffered sinks lose, repeat and reorder nothing.** Over every run from an empty
dispatcher whose handlers have handled nothing yet:

* every buffered registration (one with a queue, its sink since replaced or not) has handled,
  in order, a prefix of the samples it accepted, and the rest wait in its queue; a sample a
  send refused is never handled;
* once the dispatcher is closed, each has handled exactly the samples it accepted;
* while it is open, a blocking sink accepts every sample, and a sink that does not block
  refuses one, with `queue full: <name>`, exactly when its queue holds its capacity;
* once it is closed, a queued sink refuses every send with `dispatcher closed: <name>`, and a
  publication changes no queue and no buffered registration's view, and fails when there is a
  queued sink. -/
theorem buffered_sinks_deliver_accepted (hr : ∀ i, Records h.handle P (V i) i) {s₀ : σ}
    (hs : P s₀) (hv : ∀ i, V i s₀ = []) (evs : List Event) :
    let r := runEvents h ({}, s₀) evs
    (∀ (k : Nat) (b : Backlog), r.1.backlogs[k]? = some b →
      V b.handler r.2.1 ++ b.pending = accepted r.2.2 b.handler) ∧
    (r.1.closed = true → ∀ (k : Nat) (b : Backlog), r.1.backlogs[k]? = some b →
      V b.handler r.2.1 = accepted r.2.2 b.handler) ∧
    (r.1.closed = false → ∀ e ∈ r.1.sinks.toList, ∀ cap blocking,
      e.delivery = .queued cap blocking →
      ∃ (k : Nat) (b : Backlog), r.1.backlogs[k]? = some b ∧ b.handler = e.handler ∧
        ∀ x, (offer h r.1 r.2.1 x e).2.2 =
          if blocking = true ∨ b.pending.length < cap then none
          else some ("queue full: " ++ e.name)) ∧
    (r.1.closed = true → ∀ x,
      (∀ e ∈ r.1.sinks.toList, e.delivery ≠ .direct →
        offer h r.1 r.2.1 x e = (r.1, r.2.1, some ("dispatcher closed: " ++ e.name))) ∧
      (publish h r.1 r.2.1 x).1.backlogs = r.1.backlogs ∧
      (∀ (k : Nat) (b : Backlog), r.1.backlogs[k]? = some b →
        V b.handler (publish h r.1 r.2.1 x).2.1 = V b.handler r.2.1) ∧
      ((∃ e ∈ r.1.sinks.toList, e.delivery ≠ .direct) → (publish h r.1 r.2.1 x).2.2.isSome)) := by
  intro r
  have hi : Inv P V r.1 r.2.1 r.2.2 := by
    simpa using runEvents_inv h hr evs {} s₀ [] (inv_empty hs hv)
  refine ⟨hi.balanced, fun hc k b hb => ?_, fun hopen e he cap blocking hdel => ?_,
    fun hc x => ?_⟩
  · -- closing emptied the queue, so what was accepted has all been handled
    have hempty := hi.wf.closed_empty hc k
    simp only [pendingOf, hb, Option.map_some, Option.getD_some] at hempty
    simpa [hempty] using hi.balanced k b hb
  · obtain ⟨k, b, hb, hbe, hans⟩ := offer_queued_answer h hi.wf hopen he hdel
    exact ⟨k, b, hb, hbe, fun x => hans r.2.1 x⟩
  · obtain ⟨hback, hviews, hfails⟩ := publish_after_close h hr hi.wf hc hi.keeps x
    exact ⟨fun e _ hdel => offer_closed_queued h hc r.2.1 x hdel, hback, hviews, hfails⟩

end Run

/-! ### A logging consumer -/

/-- Handlers that log every sample with the registration handling it, never busy and never
failing. -/
def logHandlers : Handlers (List (Nat × StepSample)) where
  handle s j x := (s ++ [(j, x)], none)
  stalled _ _ := false

/-- What registration `i` handled, in a log of `logHandlers`. -/
def logView (i : Nat) (s : List (Nat × StepSample)) : List StepSample :=
  (s.filter (·.1 == i)).map (·.2)

theorem logHandlers_records (i : Nat) : Records logHandlers.handle (fun _ => True) (logView i) i where
  keeps _ _ _ _ := trivial
  appends s x _ := by simp [logHandlers, logView]
  leaves s j x _ hji := by simp [logHandlers, logView, hji]

/-- The theorem at a non-blocking sink of capacity one that accepts a sample before the
dispatcher closes. -/
theorem logged_sink_delivers_accepted :
    (∀ i, Records logHandlers.handle (fun _ => True) (logView i) i) ∧ True ∧
      (∀ i, logView i [] = []) ∧
      let r := runEvents logHandlers ({}, [])
        [.register "q" (.queued 1 false), .send (StepSample.zero 1) 0, .close]
      (∀ (k : Nat) (b : Backlog), r.1.backlogs[k]? = some b →
        logView b.handler r.2.1 ++ b.pending = accepted r.2.2 b.handler) ∧
      (r.1.closed = true → ∀ (k : Nat) (b : Backlog), r.1.backlogs[k]? = some b →
        logView b.handler r.2.1 = accepted r.2.2 b.handler) ∧
      (r.1.closed = false → ∀ e ∈ r.1.sinks.toList, ∀ cap blocking,
        e.delivery = .queued cap blocking →
        ∃ (k : Nat) (b : Backlog), r.1.backlogs[k]? = some b ∧ b.handler = e.handler ∧
          ∀ x, (offer logHandlers r.1 r.2.1 x e).2.2 =
            if blocking = true ∨ b.pending.length < cap then none
            else some ("queue full: " ++ e.name)) ∧
      (r.1.closed = true → ∀ x,
        (∀ e ∈ r.1.sinks.toList, e.delivery ≠ .direct →
          offer logHandlers r.1 r.2.1 x e = (r.1, r.2.1, some ("dispatcher closed: " ++ e.name))) ∧
        (publish logHandlers r.1 r.2.1 x).1.backlogs = r.1.backlogs ∧
        (∀ (k : Nat) (b : Backlog), r.1.backlogs[k]? = some b →
          logView b.handler (publish logHandlers r.1 r.2.1 x).2.1 = logView b.handler r.2.1) ∧
        ((∃ e ∈ r.1.sinks.toList, e.delivery ≠ .direct) →
          (publish logHandlers r.1 r.2.1 x).2.2.isSome)) :=
  ⟨logHandlers_records, trivial, fun _ => rfl,
    buffered_sinks_deliver_accepted logHandlers logHandlers_records trivial (fun _ => rfl) _⟩

/-- A direct sink is still handed samples after the dispatcher is closed, and the publication
answers no error. -/
theorem direct_sink_served_after_close :
    let d := (close logHandlers (register logHandlers {} [] "sync" .direct).1 []).1
    d.closed = true ∧
      (publish logHandlers d [] (StepSample.zero 1)).2.1 = [(0, StepSample.zero 1)] ∧
      (publish logHandlers d [] (StepSample.zero 1)).2.2 = none := by
  -- closing has no queue to wait for; the sink's handler then runs on the publication
  refine ⟨?_, ?_, ?_⟩ <;>
    simp [publish_eq, publishStep, offer, handleCounted, register_direct, withSink, close,
      logHandlers, drain]

end Dispatcher

end SailSim
