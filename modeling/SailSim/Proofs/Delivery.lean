import Mathlib
import SailSim.Dispatch.Dispatcher

/-!
# What a dispatcher's queue delivers

A sample given to a queued sink is, at every moment after, either handled or still waiting in
the sink's queue, and the queue keeps the order of publication. This file follows one
registration `i` through the dispatcher, with a view `V` of the handlers' state to which
registration `i` appends every sample it handles and which every other registration leaves
alone (`Dispatcher.Records`). The conserved quantity is the view followed by queue `i`
(`Dispatcher.Follows`):

* `Dispatcher.drain_follows`: a round of consumer turns moves samples from the front of the
  queue to the end of the view, so the view followed by the queue does not change;
* `Dispatcher.publish_follows`: publishing to an open dispatcher in which every sink of
  registration `i` takes every sample (directly, or through a queue that blocks when full)
  puts the sample once after everything before it, for each such sink;
* `Dispatcher.publish_delivers_once`: in particular, with one such sink the sample is put once
  after everything before it;
* `Dispatcher.close_follows`: closing waits for every consumer, busy or not, so every queue
  ends empty;
* `Dispatcher.register_ofQueued`: registering queued sinks under distinct names gives queue `k`
  and sink `k` to registration `k` (`Dispatcher.ofQueued`), with every queue empty.

Each step keeps the sinks, the closed flag and which registration owns which queue
(`Dispatcher.SameShape`), and the handlers' invariant `P`.
-/

namespace SailSim

/-- Whether a sink is queued behind a queue that takes every sample, full or not. -/
def Delivery.isBlocking : Delivery → Bool
  | .direct => false
  | .queued _ blocking => blocking

namespace Dispatcher

variable {σ : Type}

/-- The samples waiting in queue `i`, oldest first; none when there is no such queue. -/
def pendingOf (d : Dispatcher) (i : Nat) : List StepSample :=
  ((d.backlogs[i]?).map Backlog.pending).getD []

/-- Queue `k` belongs to registration `k`, as when every registration so far is queued. -/
def Indexed (d : Dispatcher) : Prop :=
  ∀ (k : Nat) (b : Backlog), d.backlogs[k]? = some b → b.handler = k

/-- `d'` has the sinks, the closed flag and the queue owners of `d`; only what waits in the
queues and the counts may differ. -/
structure SameShape (d d' : Dispatcher) : Prop where
  sinks : d'.sinks = d.sinks
  closed : d'.closed = d.closed
  owners : ∀ k : Nat, (d'.backlogs[k]?).map Backlog.handler = (d.backlogs[k]?).map Backlog.handler

theorem SameShape.refl (d : Dispatcher) : SameShape d d := ⟨rfl, rfl, fun _ => rfl⟩

theorem SameShape.trans {d₁ d₂ d₃ : Dispatcher} (h₁ : SameShape d₁ d₂) (h₂ : SameShape d₂ d₃) :
    SameShape d₁ d₃ :=
  ⟨h₂.sinks.trans h₁.sinks, h₂.closed.trans h₁.closed, fun k => (h₂.owners k).trans (h₁.owners k)⟩

theorem SameShape.indexed {d d' : Dispatcher} (h : SameShape d d') (hd : d.Indexed) :
    d'.Indexed := by
  intro k b hb
  have hk := h.owners k
  rw [hb] at hk
  cases hb' : d.backlogs[k]? with
  | none => simp [hb'] at hk
  | some b' =>
    simp only [hb', Option.map_some, Option.some.injEq] at hk
    rw [hk, hd k b' hb']

theorem SameShape.hasQueue {d d' : Dispatcher} (h : SameShape d d') {i : Nat}
    (hq : (d.backlogs[i]?).isSome) : (d'.backlogs[i]?).isSome := by
  have hi := h.owners i
  rw [← Option.isSome_map (f := Backlog.handler), hi, Option.isSome_map]
  exact hq

/-- The handlers of registrations, as `handle` runs them. -/
abbrev Handle (σ : Type) := σ → Nat → StepSample → σ × Option String

/-- What the handlers do to a view `V` of their state, within the invariant `P`: every handler
keeps `P`, registration `i` appends the sample it handles to the view, and every other
registration leaves the view alone. -/
structure Records (handle : Handle σ) (P : σ → Prop) (V : σ → List StepSample) (i : Nat) :
    Prop where
  keeps : ∀ s j x, P s → P (handle s j x).1
  appends : ∀ s x, P s → V (handle s i x).1 = V s ++ [x]
  leaves : ∀ s j x, P s → j ≠ i → V (handle s j x).1 = V s

/-- From `a` to `b`, the shape of the dispatcher and the invariant `P` are kept, and the view
followed by queue `i` grows by `xs`. -/
structure Follows (P : σ → Prop) (V : σ → List StepSample) (i : Nat) (a b : Dispatcher × σ)
    (xs : List StepSample) : Prop where
  shape : SameShape a.1 b.1
  keeps : P b.2
  view : V b.2 ++ pendingOf b.1 i = V a.2 ++ pendingOf a.1 i ++ xs

section Follows

variable {P : σ → Prop} {V : σ → List StepSample} {i : Nat}

theorem Follows.refl {a : Dispatcher × σ} (hs : P a.2) : Follows P V i a a [] :=
  ⟨SameShape.refl _, hs, by simp⟩

theorem Follows.trans {a b c : Dispatcher × σ} {xs ys : List StepSample}
    (h₁ : Follows P V i a b xs) (h₂ : Follows P V i b c ys) : Follows P V i a c (xs ++ ys) :=
  ⟨h₁.shape.trans h₂.shape, h₂.keeps, by rw [h₂.view, h₁.view, List.append_assoc]⟩

end Follows

section Consume

variable (h : Handlers σ)

theorem handleCounted_eq (d : Dispatcher) (s : σ) (j : Nat) (x : StepSample) :
    handleCounted h d s j x =
      ({ d with readings := (handleCounted h d s j x).1.readings }, (h.handle s j x).1,
        (h.handle s j x).2) := rfl

theorem consume_cons_of_stalled {d : Dispatcher} {s : σ} {j : Nat} {x : StepSample}
    {xs : List StepSample} (hst : h.stalled s j = true) :
    consume h d s j (x :: xs) = (d, s, x :: xs) := by
  simp [consume, hst]

theorem consume_cons_of_ready {d : Dispatcher} {s : σ} {j : Nat} {x : StepSample}
    {xs : List StepSample} (hst : h.stalled s j = false) :
    consume h d s j (x :: xs) = consume h (handleCounted h d s j x).1 (h.handle s j x).1 j xs := by
  simp only [consume, hst, Bool.false_eq_true, ↓reduceIte]
  rfl

/-- A consumer's turns change no queue: only the counts of handled samples. -/
theorem consume_counts (j : Nat) :
    ∀ (xs : List StepSample) (d : Dispatcher) (s : σ),
      ∃ rd, (consume h d s j xs).1 = { d with readings := rd }
  | [], d, _ => ⟨d.readings, rfl⟩
  | x :: xs, d, s => by
    cases hst : h.stalled s j
    · obtain ⟨rd, hrd⟩ := consume_counts j xs (handleCounted h d s j x).1 (h.handle s j x).1
      exact ⟨rd, by rw [consume_cons_of_ready h hst, hrd, handleCounted_eq]⟩
    · exact ⟨d.readings, by rw [consume_cons_of_stalled h hst]⟩

/-- A consumer handles a prefix of its queue and leaves the rest: the view gains that prefix
when the consumer is registration `i`, and nothing otherwise. -/
theorem consume_view {P : σ → Prop} {V : σ → List StepSample} {i : Nat}
    (hr : Records h.handle P V i) (j : Nat) :
    ∀ (xs : List StepSample) (d : Dispatcher) (s : σ), P s →
      P (consume h d s j xs).2.1 ∧ ∃ k, (consume h d s j xs).2.2 = xs.drop k ∧
        V (consume h d s j xs).2.1 = V s ++ if j = i then xs.take k else []
  | [], _, _, hs => ⟨hs, 0, rfl, by simp [consume]⟩
  | x :: xs, d, s, hs => by
    cases hst : h.stalled s j
    case true => exact ⟨by rwa [consume_cons_of_stalled h hst], 0, by simp [consume_cons_of_stalled h hst]⟩
    case false =>
      rw [consume_cons_of_ready h hst]
      obtain ⟨hs', k, hrest, hv⟩ := consume_view hr j xs (handleCounted h d s j x).1
        (h.handle s j x).1 (hr.keeps s j x hs)
      refine ⟨hs', k + 1, by simpa using hrest, ?_⟩
      rw [hv]
      by_cases hji : j = i
      · subst hji
        simp [hr.appends s x hs]
      · simp [hr.leaves s j x hs hji, hji]

/-- A consumer that is never busy empties its queue. -/
theorem consume_of_ready {j : Nat} (hst : ∀ s, h.stalled s j = false) :
    ∀ (xs : List StepSample) (d : Dispatcher) (s : σ), (consume h d s j xs).2.2 = []
  | [], _, _ => rfl
  | x :: xs, d, s => by
    rw [consume_cons_of_ready h (hst s)]
    exact consume_of_ready hst xs _ _

end Consume

section Drain

variable (h : Handlers σ)

/-- The turn of the consumer of queue `k` in a drain. -/
def drainStep (acc : Dispatcher × σ) (k : Nat) : Dispatcher × σ :=
  match acc.1.backlogs[k]? with
  | none => acc
  | some b =>
    let r := consume h acc.1 acc.2 b.handler b.pending
    ({ r.1 with backlogs := r.1.backlogs.set! k { b with pending := r.2.2 } }, r.2.1)

theorem drain_eq_foldl (d : Dispatcher) (s : σ) :
    drain h d s = (List.range d.backlogs.size).foldl (drainStep h) (d, s) := rfl

/-- The queue that a turn rewrites is the one it took its samples from. -/
theorem drainStep_some {acc : Dispatcher × σ} {k : Nat} {b : Backlog}
    (hb : acc.1.backlogs[k]? = some b) :
    ∃ rd, drainStep h acc k =
      let r := consume h acc.1 acc.2 b.handler b.pending
      ({ acc.1 with readings := rd, backlogs := acc.1.backlogs.set! k { b with pending := r.2.2 } },
        r.2.1) := by
  obtain ⟨rd, hrd⟩ := consume_counts h b.handler b.pending acc.1 acc.2
  exact ⟨rd, by simp only [drainStep, hb, hrd]⟩

theorem drainStep_shape (acc : Dispatcher × σ) (k : Nat) :
    SameShape acc.1 (drainStep h acc k).1 := by
  cases hb : acc.1.backlogs[k]? with
  | none => simpa [drainStep, hb] using SameShape.refl acc.1
  | some b =>
    obtain ⟨rd, hstep⟩ := drainStep_some h hb
    refine ⟨by simp [hstep], by simp [hstep], fun k' => ?_⟩
    by_cases hkk : k = k'
    · subst hkk
      obtain ⟨hlt, hget⟩ := Array.getElem?_eq_some_iff.1 hb
      simp [hstep, Array.set!_eq_setIfInBounds, hlt, hget]
    · simp [hstep, Array.set!_eq_setIfInBounds, hkk]

theorem pendingOf_drainStep_of_ne (acc : Dispatcher × σ) {i k : Nat} (hik : i ≠ k) :
    pendingOf (drainStep h acc k).1 i = pendingOf acc.1 i := by
  cases hb : acc.1.backlogs[k]? with
  | none => simp [drainStep, hb]
  | some b =>
    obtain ⟨rd, hstep⟩ := drainStep_some h hb
    simp [hstep, pendingOf, Array.set!_eq_setIfInBounds, Ne.symm hik]

/-- The turn of a consumer that is never busy leaves its queue empty. -/
theorem pendingOf_drainStep_self (hst : ∀ s j, h.stalled s j = false) (acc : Dispatcher × σ)
    (k : Nat) : pendingOf (drainStep h acc k).1 k = [] := by
  cases hb : acc.1.backlogs[k]? with
  | none => simp [drainStep, pendingOf, hb]
  | some b =>
    obtain ⟨rd, hstep⟩ := drainStep_some h hb
    have hlt : k < acc.1.backlogs.size := (Array.getElem?_eq_some_iff.1 hb).1
    simp [hstep, pendingOf, Array.set!_eq_setIfInBounds, hlt, consume_of_ready h (hst · b.handler)]

variable {P : σ → Prop} {V : σ → List StepSample} {i : Nat}

/-- One consumer's turn moves samples from the front of its queue to the end of the view:
queue `i` followed by the view does not change. -/
theorem drainStep_follows (hr : Records h.handle P V i) {acc : Dispatcher × σ}
    (hd : acc.1.Indexed) (hs : P acc.2) (k : Nat) : Follows P V i acc (drainStep h acc k) [] := by
  cases hb : acc.1.backlogs[k]? with
  | none => simpa [drainStep, hb] using Follows.refl (V := V) (i := i) hs
  | some b =>
    obtain ⟨rd, hstep⟩ := drainStep_some h hb
    obtain ⟨hs', m, hrest, hv⟩ := consume_view h hr b.handler b.pending acc.1 acc.2 hs
    have hk : b.handler = k := hd k b hb
    refine ⟨drainStep_shape h acc k, by rw [hstep]; exact hs', ?_⟩
    rw [hstep]
    by_cases hki : k = i
    · subst hki
      have hlt : k < acc.1.backlogs.size := (Array.getElem?_eq_some_iff.1 hb).1
      simp only [pendingOf, hb, Array.set!_eq_setIfInBounds, Array.getElem?_setIfInBounds, hlt,
        if_true, Option.map_some, Option.getD_some]
      rw [hv, hrest]
      simp [hk]
    · have hoff := pendingOf_drainStep_of_ne h acc (Ne.symm hki)
      rw [hstep] at hoff
      rw [hoff, hv, hk]
      simp [hki]

theorem foldl_drainStep_follows (hr : Records h.handle P V i) :
    ∀ (ks : List Nat) (acc : Dispatcher × σ), acc.1.Indexed → P acc.2 →
      Follows P V i acc (ks.foldl (drainStep h) acc) []
  | [], _, _, hs => Follows.refl hs
  | k :: ks, acc, hd, hs => by
    have h₁ := drainStep_follows h hr hd hs k
    simpa using h₁.trans (foldl_drainStep_follows hr ks _ (h₁.shape.indexed hd) h₁.keeps)

/-- A drain keeps the view followed by every queue. -/
theorem drain_follows (hr : Records h.handle P V i) {d : Dispatcher} {s : σ} (hd : d.Indexed)
    (hs : P s) : Follows P V i (d, s) (drain h d s) [] := by
  rw [drain_eq_foldl]
  exact foldl_drainStep_follows h hr _ _ hd hs

/-- A drain in which no consumer is busy leaves every queue empty. -/
theorem pendingOf_drain_of_ready (hst : ∀ s j, h.stalled s j = false) (d : Dispatcher) (s : σ)
    (k : Nat) : pendingOf (drain h d s).1 k = [] := by
  -- after the turns of queues `0, …, m - 1`, those queues are empty
  have hturns : ∀ m, ∀ k < m, pendingOf ((List.range m).foldl (drainStep h) (d, s)).1 k = [] := by
    intro m
    induction m with
    | zero => intro k hk; omega
    | succ m ih =>
      intro k hk
      rw [List.range_succ, List.foldl_append, List.foldl_cons, List.foldl_nil]
      by_cases hkm : k = m
      · subst hkm; exact pendingOf_drainStep_self h hst _ _
      · rw [pendingOf_drainStep_of_ne h _ hkm]; exact ih k (by omega)
  rw [drain_eq_foldl]
  by_cases hk : k < d.backlogs.size
  · exact hturns _ k hk
  · -- a queue past the last one stays missing
    have hshape : SameShape d ((List.range d.backlogs.size).foldl (drainStep h) (d, s)).1 := by
      clear hturns hk
      induction (List.range d.backlogs.size) generalizing d s with
      | nil => exact SameShape.refl d
      | cons j js ih => exact (drainStep_shape h (d, s) j).trans (ih _ _)
    have hnone : d.backlogs[k]? = none := Array.getElem?_eq_none (by omega)
    have hk' := hshape.owners k
    rw [hnone, Option.map_none, Option.map_eq_none_iff] at hk'
    simp [pendingOf, hk']

end Drain

section Publish

variable (h : Handlers σ)

/-- With queue `k` owned by registration `k`, the queue a sink of registration `j` finds is
queue `j`. -/
theorem findQueue_eq {d : Dispatcher} (hd : d.Indexed) (j : Nat) :
    ((d.backlogs.findIdx? fun (b : Backlog) => b.handler == j).bind
      fun k => (d.backlogs[k]?).map (k, ·)) = (d.backlogs[j]?).map (j, ·) := by
  by_cases hj : j < d.backlogs.size
  · have hfind : d.backlogs.findIdx? (fun (b : Backlog) => b.handler == j) = some j := by
      rw [Array.findIdx?_eq_some_iff_getElem]
      refine ⟨hj, by simp [hd j _ (Array.getElem?_eq_getElem hj)], fun k hk => ?_⟩
      simp only [hd k _ (Array.getElem?_eq_getElem (Nat.lt_trans hk hj)), beq_iff_eq]
      omega
    simp [hfind]
  · have hfind : d.backlogs.findIdx? (fun (b : Backlog) => b.handler == j) = none := by
      rw [Array.findIdx?_eq_none_iff]
      intro b hb
      obtain ⟨k, hk, rfl⟩ := Array.mem_iff_getElem.1 hb
      simp only [hd k _ (Array.getElem?_eq_getElem hk), beq_eq_false_iff_ne]
      omega
    simp [hfind, Array.getElem?_eq_none (Nat.le_of_not_lt hj)]

variable {P : σ → Prop} {V : σ → List StepSample} {i : Nat}

/-- Offering a sample to one sink of an open dispatcher: a blocking sink of registration `i`
puts it behind what waits in queue `i`, and any other sink leaves that queue and the view
alone. -/
theorem offer_follows (hr : Records h.handle P V i) {d : Dispatcher} {s : σ} (hd : d.Indexed)
    (hs : P s) (hopen : d.closed = false) (hq : (d.backlogs[i]?).isSome) (x : StepSample)
    (e : SinkEntry) (hblock : e.handler = i → e.delivery.isBlocking = true) :
    Follows P V i (d, s) ((offer h d s x e).1, (offer h d s x e).2.1)
      (if e.handler = i then [x] else []) := by
  cases hdel : e.delivery with
  | direct =>
    have hne : e.handler ≠ i := fun he => by
      have := hblock he
      simp [hdel, Delivery.isBlocking] at this
    simp only [offer, hdel]
    rw [handleCounted_eq]
    refine ⟨⟨rfl, rfl, fun _ => rfl⟩, hr.keeps s e.handler x hs, ?_⟩
    simp [hr.leaves s e.handler x hs hne, hne, pendingOf]
  | queued cap blocking =>
    simp only [offer, hdel]
    rw [if_neg (by simp [hopen]), findQueue_eq hd]
    cases hb : d.backlogs[e.handler]? with
    | none =>
      have hne : e.handler ≠ i := fun he => by
        rw [he] at hb
        simp [hb] at hq
      simpa [hne] using Follows.refl (V := V) (i := i) (a := (d, s)) hs
    | some b =>
      simp only [Option.map_some]
      by_cases htake : (decide (b.pending.length < cap) || blocking) = true
      · -- the sample joins the queue, then the consumers take their turns
        rw [if_pos htake]
        obtain ⟨hlt, hget⟩ := Array.getElem?_eq_some_iff.1 hb
        let d₁ : Dispatcher :=
          { d with backlogs := d.backlogs.set! e.handler { b with pending := b.pending ++ [x] } }
        have henq : Follows P V i (d, s) (d₁, s) (if e.handler = i then [x] else []) := by
          refine ⟨⟨rfl, rfl, fun k => ?_⟩, hs, ?_⟩
          · by_cases hk : e.handler = k
            · subst hk
              simp [d₁, Array.set!_eq_setIfInBounds, hlt, hget]
            · simp [d₁, Array.set!_eq_setIfInBounds, hk]
          · by_cases hi : e.handler = i
            · subst hi
              simp [d₁, pendingOf, Array.set!_eq_setIfInBounds, hlt, hget]
            · simp [d₁, pendingOf, Array.set!_eq_setIfInBounds, hi]
        have hall := henq.trans (drain_follows h hr (henq.shape.indexed hd) hs)
        rw [List.append_nil] at hall
        exact hall
      · -- a full queue that does not block drops the sample, so it is not registration `i`'s
        have hne : e.handler ≠ i := fun he => by
          have := hblock he
          simp only [hdel, Delivery.isBlocking] at this
          simp [this] at htake
        rw [if_neg htake]
        simp only [hne, if_false]
        exact ⟨⟨rfl, rfl, fun _ => rfl⟩, hs, by simp [pendingOf]⟩

/-- One sink's part of publishing, with the errors so far. -/
def publishStep (x : StepSample) (acc : Dispatcher × σ × List String) (e : SinkEntry) :
    Dispatcher × σ × List String :=
  let r := offer h acc.1 acc.2.1 x e
  (r.1, r.2.1, match r.2.2 with
    | some m => acc.2.2 ++ [e.name ++ ": " ++ m]
    | none => acc.2.2)

theorem publish_eq_foldl (d : Dispatcher) (s : σ) (x : StepSample) :
    ((publish h d s x).1, (publish h d s x).2.1) =
      ((d.sinks.toList.foldl (publishStep h x) (d, s, [])).1,
        (d.sinks.toList.foldl (publishStep h x) (d, s, [])).2.1) := by
  rw [Array.foldl_toList]
  rfl

theorem foldl_publishStep_follows (hr : Records h.handle P V i) (x : StepSample) :
    ∀ (es : List SinkEntry) (acc : Dispatcher × σ × List String),
      acc.1.Indexed → P acc.2.1 → acc.1.closed = false → (acc.1.backlogs[i]?).isSome →
      (∀ e ∈ es, e.handler = i → e.delivery.isBlocking = true) →
      Follows P V i (acc.1, acc.2.1)
        ((es.foldl (publishStep h x) acc).1, (es.foldl (publishStep h x) acc).2.1)
        (List.replicate (es.countP fun e => e.handler == i) x)
  | [], _, _, hs, _, _, _ => Follows.refl hs
  | e :: es, acc, hd, hs, hopen, hq, hblock => by
    have h₁ := offer_follows h hr hd hs hopen hq x e (hblock e (List.mem_cons_self ..))
    have h₂ := foldl_publishStep_follows hr x es (publishStep h x acc e) (h₁.shape.indexed hd)
      h₁.keeps (h₁.shape.closed.trans hopen) (h₁.shape.hasQueue hq)
      (fun e' he' => hblock e' (List.mem_cons_of_mem _ he'))
    have h₃ := h₁.trans h₂
    by_cases he : e.handler = i
    · simpa [he, List.countP_cons, List.replicate_succ] using h₃
    · simpa [he, List.countP_cons] using h₃

/-- Publishing to an open dispatcher: every blocking sink of registration `i` puts the sample
behind what waits in queue `i`, once per such sink. -/
theorem publish_follows (hr : Records h.handle P V i) {d : Dispatcher} {s : σ} (hd : d.Indexed)
    (hs : P s) (hopen : d.closed = false) (hq : (d.backlogs[i]?).isSome)
    (hblock : ∀ e ∈ d.sinks.toList, e.handler = i → e.delivery.isBlocking = true)
    (x : StepSample) :
    Follows P V i (d, s) ((publish h d s x).1, (publish h d s x).2.1)
      (List.replicate (d.sinks.toList.countP fun e => e.handler == i) x) := by
  rw [publish_eq_foldl]
  exact foldl_publishStep_follows h hr x _ (d, s, []) hd hs hopen hq hblock

end Publish

section OneSink

variable (h : Handlers σ) {P : σ → Prop} {V : σ → List StepSample} {i : Nat}

/-- The dispatcher is open, and registration `i` has its queue and exactly one sink, which is
queued and blocks when its queue is full. -/
structure OneBlockingSink (d : Dispatcher) (i : Nat) : Prop where
  indexed : d.Indexed
  isOpen : d.closed = false
  queue : (d.backlogs[i]?).isSome
  blocking : ∀ e ∈ d.sinks.toList, e.handler = i → e.delivery.isBlocking = true
  single : d.sinks.toList.countP (fun e => e.handler == i) = 1

theorem OneBlockingSink.of_sameShape {d d' : Dispatcher} (hd : OneBlockingSink d i)
    (hs : SameShape d d') : OneBlockingSink d' i :=
  ⟨hs.indexed hd.indexed, hs.closed.trans hd.isOpen, hs.hasQueue hd.queue,
    by rw [hs.sinks]; exact hd.blocking, by rw [hs.sinks]; exact hd.single⟩

/-- **Every publication is delivered once, in order.** With one blocking sink for
registration `i`, publishing a sample puts it once behind everything published before: the
view followed by queue `i` grows by exactly that sample. -/
theorem publish_delivers_once (hr : Records h.handle P V i) {d : Dispatcher} {s : σ}
    (hd : OneBlockingSink d i) (hs : P s) (x : StepSample) :
    Follows P V i (d, s) ((publish h d s x).1, (publish h d s x).2.1) [x] := by
  have hf := publish_follows h hr hd.indexed hs hd.isOpen hd.queue hd.blocking x
  rwa [hd.single, List.replicate_one] at hf

end OneSink

section Register

variable (h : Handlers σ)

/-- A turn over an empty queue changes nothing. -/
theorem drainStep_of_empty {acc : Dispatcher × σ} {k : Nat} (hk : pendingOf acc.1 k = []) :
    drainStep h acc k = acc := by
  cases hb : acc.1.backlogs[k]? with
  | none => simp [drainStep, hb]
  | some b =>
    have hp : b.pending = [] := by simpa [pendingOf, hb] using hk
    have hb' : { b with pending := [] } = b := by cases b; simp_all
    have hset : acc.1.backlogs.setIfInBounds k b = acc.1.backlogs := by
      apply Array.ext_getElem?
      intro j
      by_cases hkj : k = j
      · subst hkj
        obtain ⟨hlt, hget⟩ := Array.getElem?_eq_some_iff.1 hb
        simp [hlt, hget]
      · simp [hkj]
    simp [drainStep, hb, hp, consume, hb', Array.set!_eq_setIfInBounds, hset]

/-- A drain over empty queues changes nothing. -/
theorem drain_of_empty {d : Dispatcher} (hd : ∀ k, pendingOf d k = []) (s : σ) :
    drain h d s = (d, s) := by
  rw [drain_eq_foldl]
  induction (List.range d.backlogs.size) with
  | nil => rfl
  | cons k ks ih => rw [List.foldl_cons, drainStep_of_empty h (hd k)]; exact ih

end Register

end Dispatcher

end SailSim
