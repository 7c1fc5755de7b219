import Mathlib
import SailSim.Queue.Shared

/-!
# A shared queue behaves as one list, call after call

Goroutines share a queue and call it under any schedule (`SailSim.Queue.Shared`). Each call
reads the items and writes them back in two separate steps, so without the mutex a call could
write back a queue that another call has changed since. With it, the goroutine that has read
the items is the one holding the mutex, and nothing changes the queue before it writes
(`Shared.Exclusive`). Every schedule then gives what the finished calls give when made one
after another on a list, in the order they finished.

The list model (`Call.onList`): pushing appends its items in order; popping removes and returns
the head, or reports an empty list; draining removes and returns the first `min limit n` items
of `n`, all of them when `limit ≤ 0`; clearing empties the list; `len` and `empty` read the
length. Each call removes a prefix (`Call.taken`) and appends what it pushes (`Call.pushed`).

## Main results

* `Call.run_eq_onList` : the queue's operations are the list model.
* `Call.onList_conserves` : a call removes a prefix of the list and appends what it pushes.
* `Shared.step_linear` : one move of one goroutine keeps the invariant `Shared.Linear`: the mutex
  is exclusive, the queue is the list the finished calls leave, every reply is the list model's,
  and each goroutine finished a prefix of its calls, in order.
* `shared_queue_linearizable` : **for every schedule of goroutines making any calls**, the
  finished calls made one after another give the replies and the queue; every item is either
  returned by one pop or drain, dropped by one clear, or still queued, once; and the items a
  goroutine pushed leave the queue in the order it pushed them.
-/

namespace SailSim.Queue

variable {α : Type}

/-! ### The list model -/

/-- How many items draining takes from `n`: `min limit n`, and all of them when `limit ≤ 0`. -/
def drainLength (limit : Int) (n : Nat) : Nat :=
  if limit ≤ 0 then n else min limit.toNat n

/-- A call made on a list: its reply and the list it leaves. -/
def Call.onList : Call α → List α → Reply α × List α
  | .push xs, l => (.none, l ++ xs)
  | .pop, [] => (.popped none, [])
  | .pop, x :: l => (.popped (some x), l)
  | .drain limit, l =>
    (.drained (l.take (drainLength limit l.length)), l.drop (drainLength limit l.length))
  | .len, l => (.length l.length, l)
  | .empty, l => (.isEmpty (l.length == 0), l)
  | .clear, _ => (.none, [])

/-- The items a call appends. -/
def Call.pushed : Call α → List α
  | .push xs => xs
  | _ => []

/-- The items a call removes from the front of `l`: the popped item, the drained items, or
every item when it clears. -/
def Call.taken : Call α → List α → List α
  | .pop, l => l.take 1
  | .drain limit, l => l.take (drainLength limit l.length)
  | .clear, l => l
  | _, _ => []

theorem drainCount_eq (n : Nat) (limit : Int) : drainCount n limit = drainLength limit n := by
  unfold drainCount drainLength
  by_cases h : 0 < limit ∧ limit < n
  · have hd : (0 < limit && decide (limit < n)) = true := by simp [h.1, h.2]
    rw [if_pos hd, if_neg (by omega)]
    omega
  · have hd : ¬ (0 < limit && decide (limit < n)) = true := by simpa using h
    rw [if_neg hd]
    split_ifs <;> omega

/-- The queue's operations are the list model. -/
theorem Call.run_eq_onList (c : Call α) (q : Queue α) :
    ((c.run q).1, (c.run q).2.items) = c.onList q.items := by
  obtain ⟨l⟩ := q
  cases c with
  | push xs => rfl
  | pop => cases l <;> rfl
  | drain limit =>
    simp [Call.run, Call.onList, Queue.drain, Queue.length, drainCount_eq]
  | len => rfl
  | empty => cases l <;> rfl
  | clear => rfl

theorem Call.run_reply (c : Call α) (q : Queue α) : (c.run q).1 = (c.onList q.items).1 := by
  rw [← c.run_eq_onList q]

theorem Call.run_items (c : Call α) (q : Queue α) : (c.run q).2.items = (c.onList q.items).2 := by
  rw [← c.run_eq_onList q]

/-- A call removes a prefix of the list and appends what it pushes. -/
theorem Call.onList_conserves (c : Call α) (l : List α) :
    l ++ c.pushed = c.taken l ++ (c.onList l).2 := by
  cases c with
  | push xs => simp [Call.pushed, Call.taken, Call.onList]
  | pop => cases l <;> simp [Call.pushed, Call.taken, Call.onList]
  | drain limit => simp [Call.pushed, Call.taken, Call.onList]
  | len => simp [Call.pushed, Call.taken, Call.onList]
  | empty => simp [Call.pushed, Call.taken, Call.onList]
  | clear => simp [Call.pushed, Call.taken, Call.onList]

/-- What a pop or a drain removes is what it returns. -/
theorem Call.onList_returns_taken (l : List α) :
    (Call.pop.onList l).1 = .popped (Call.pop.taken l).head? ∧
      ∀ limit, ((Call.drain limit).onList l).1 = .drained ((Call.drain limit).taken l) := by
  refine ⟨?_, fun limit => rfl⟩
  cases l <;> rfl

/-! ### Calls one after another -/

/-- Calls made one after another on `l`: their replies, in order, and the list they leave. -/
def replay : List α → List (Call α) → List (Reply α) × List α
  | l, [] => ([], l)
  | l, c :: cs =>
    let r := c.onList l
    let rest := replay r.2 cs
    (r.1 :: rest.1, rest.2)

/-- The items that calls made one after another on `l` remove, in order. -/
def removedAlong : List α → List (Call α) → List α
  | _, [] => []
  | l, c :: cs => c.taken l ++ removedAlong (c.onList l).2 cs

theorem replay_append_single (l : List α) (cs : List (Call α)) (c : Call α) :
    replay l (cs ++ [c]) =
      ((replay l cs).1 ++ [(c.onList (replay l cs).2).1], (c.onList (replay l cs).2).2) := by
  induction cs generalizing l with
  | nil => rfl
  | cons c' cs ih => simp [replay, ih]

/-- Over calls made one after another, the list and everything pushed is everything removed,
in order, followed by what is left. -/
theorem replay_conserves (l : List α) (cs : List (Call α)) :
    l ++ cs.flatMap Call.pushed = removedAlong l cs ++ (replay l cs).2 := by
  induction cs generalizing l with
  | nil => simp [removedAlong, replay]
  | cons c cs ih =>
    calc l ++ (c :: cs).flatMap Call.pushed
        = (l ++ c.pushed) ++ cs.flatMap Call.pushed := by simp
      _ = c.taken l ++ ((c.onList l).2 ++ cs.flatMap Call.pushed) := by
          rw [c.onList_conserves l, List.append_assoc]
      _ = removedAlong l (c :: cs) ++ (replay l (c :: cs)).2 := by
          rw [ih]; simp [removedAlong, replay]

/-! ### Under the mutex -/

namespace Shared

@[simp] theorem setThread_self (s : Shared α) (g : Nat) (t : Goroutine α) :
    s.setThread g t g = t := by
  simp [setThread]

@[simp] theorem setThread_ne (s : Shared α) {g u : Nat} (t : Goroutine α) (h : u ≠ g) :
    s.setThread g t u = s.threads u := by
  simp [setThread, h]

/-- Only the goroutine holding the mutex is inside a call, and one that has read the items has
read the queue as it is now. -/
structure Exclusive (s : Shared α) : Prop where
  holds : ∀ g, (s.threads g).phase ≠ .idle → s.holder = some g
  current : ∀ g q, (s.threads g).phase = .read q → q = s.queue

/-- With the mutex held by `g`, every other goroutine is between calls. -/
theorem Exclusive.others_idle {s : Shared α} (hx : s.Exclusive) {g u : Nat}
    (hg : s.holder = some g) (hu : u ≠ g) : (s.threads u).phase = .idle := by
  by_contra hne
  exact hu (Option.some_injective _ ((hx.holds u hne).symm.trans hg))

/-- The calls goroutine `g` finished, in the order it finished them. -/
def ownLog (log : List (Done α)) (g : Nat) : List (Done α) := log.filter (·.thread == g)

@[simp] theorem ownLog_nil (g : Nat) : ownLog ([] : List (Done α)) g = [] := rfl

theorem ownLog_append_self (log : List (Done α)) {g : Nat} (d : Done α) (hd : d.thread = g) :
    ownLog (log ++ [d]) g = ownLog log g ++ [d] := by
  simp [ownLog, hd]

theorem ownLog_append_other (log : List (Done α)) {g : Nat} (d : Done α) (hd : d.thread ≠ g) :
    ownLog (log ++ [d]) g = ownLog log g := by
  simp [ownLog, hd]

/-- The state `s` with the finished calls `log`, reached from the queue `q₀` shared by
goroutines making the calls `calls`: the mutex is exclusive; the finished calls made one after
another on the items of `q₀` give their replies and leave the queue's items; and each
goroutine finished a prefix of its calls, with their replies. -/
structure Linear (q₀ : Queue α) (calls : Nat → List (Call α)) (s : Shared α)
    (log : List (Done α)) : Prop where
  exclusive : s.Exclusive
  replies : (replay q₀.items (log.map Done.call)).1 = log.map Done.reply
  items : (replay q₀.items (log.map Done.call)).2 = s.queue.items
  own : ∀ g, (ownLog log g).map Done.call ++ (s.threads g).calls = calls g
  ownReplies : ∀ g, (s.threads g).replies = (ownLog log g).map Done.reply

theorem start_linear (q₀ : Queue α) (calls : Nat → List (Call α)) :
    Linear q₀ calls (start q₀ calls) [] where
  exclusive := ⟨fun _ h => absurd rfl h, fun _ _ h => by simp [start] at h⟩
  replies := rfl
  items := rfl
  own _ := rfl
  ownReplies _ := rfl

variable {q₀ : Queue α} {calls : Nat → List (Call α)} {s : Shared α} {log : List (Done α)}

/-- Taking the free mutex. -/
theorem lock_linear (hl : Linear q₀ calls s log) {g : Nat} (hfree : s.holder = none) :
    Linear q₀ calls
      { s with holder := some g, threads := s.setThread g { s.threads g with phase := .locked } }
      log := by
  have hidle : ∀ u, (s.threads u).phase = .idle := fun u => by
    by_contra hne
    simp [hl.exclusive.holds u hne] at hfree
  refine ⟨⟨fun u hu => ?_, fun u q hu => ?_⟩, hl.replies, hl.items, fun u => ?_, fun u => ?_⟩
  · by_cases hug : u = g
    · rw [hug]
    · simp [setThread_ne _ _ hug, hidle u] at hu
  · by_cases hug : u = g
    · subst hug; simp at hu
    · simp [setThread_ne _ _ hug, hidle u] at hu
  · by_cases hug : u = g
    · subst hug; simpa using hl.own u
    · simpa [setThread_ne _ _ hug] using hl.own u
  · by_cases hug : u = g
    · subst hug; simpa using hl.ownReplies u
    · simpa [setThread_ne _ _ hug] using hl.ownReplies u

/-- Reading the items while holding the mutex. -/
theorem read_linear (hl : Linear q₀ calls s log) {g : Nat}
    (hlocked : (s.threads g).phase = .locked) :
    Linear q₀ calls { s with threads := s.setThread g { s.threads g with phase := .read s.queue } }
      log := by
  have hg : s.holder = some g := hl.exclusive.holds g (by simp [hlocked])
  refine ⟨⟨fun u hu => ?_, fun u q hu => ?_⟩, hl.replies, hl.items, fun u => ?_, fun u => ?_⟩
  · by_cases hug : u = g
    · rw [hug]; exact hg
    · exact hl.exclusive.holds u (by simpa [setThread_ne _ _ hug] using hu)
  · by_cases hug : u = g
    · subst hug; simp at hu; exact hu.symm
    · exact hl.exclusive.current u q (by simpa [setThread_ne _ _ hug] using hu)
  · by_cases hug : u = g
    · subst hug; simpa using hl.own u
    · simpa [setThread_ne _ _ hug] using hl.own u
  · by_cases hug : u = g
    · subst hug; simpa using hl.ownReplies u
    · simpa [setThread_ne _ _ hug] using hl.ownReplies u

/-- Writing back what the call leaves of what was read, and letting the mutex go. The items read
are the queue as it is: this is where exclusion is needed. -/
theorem write_linear (hl : Linear q₀ calls s log) {g : Nat} {q : Queue α} {c : Call α}
    {rest : List (Call α)} (hread : (s.threads g).phase = .read q)
    (hcalls : (s.threads g).calls = c :: rest) :
    Linear q₀ calls
      { queue := (c.run q).2, holder := none,
        threads := s.setThread g
          { calls := rest, phase := .idle, replies := (s.threads g).replies ++ [(c.run q).1] } }
      (log ++ [⟨g, c, (c.run q).1⟩]) := by
  have hg : s.holder = some g := hl.exclusive.holds g (by simp [hread])
  have hq : q = s.queue := hl.exclusive.current g q hread
  have hidle : ∀ u, u ≠ g → (s.threads u).phase = .idle := fun u hu =>
    hl.exclusive.others_idle hg hu
  -- the finished calls now end with `c`, made on the list the earlier ones leave
  have hre : replay q₀.items ((log ++ [Done.mk g c (c.run q).1]).map Done.call) =
      ((replay q₀.items (log.map Done.call)).1 ++ [(c.onList s.queue.items).1],
        (c.onList s.queue.items).2) := by
    rw [List.map_append, List.map_singleton, replay_append_single, hl.items]
  refine ⟨⟨fun u hu => ?_, fun u q' hu => ?_⟩, ?_, ?_, fun u => ?_, fun u => ?_⟩
  · by_cases hug : u = g
    · subst hug; simp at hu
    · simp [setThread_ne _ _ hug, hidle u hug] at hu
  · by_cases hug : u = g
    · subst hug; simp at hu
    · simp [setThread_ne _ _ hug, hidle u hug] at hu
  · rw [hre, hl.replies, hq, Call.run_reply]
    simp
  · rw [hre, hq, Call.run_items]
  · by_cases hug : u = g
    · subst hug
      rw [ownLog_append_self _ _ rfl]
      simpa [← hcalls] using hl.own u
    · rw [ownLog_append_other _ _ (Ne.symm hug)]
      simpa [setThread_ne _ _ hug] using hl.own u
  · by_cases hug : u = g
    · subst hug
      rw [ownLog_append_self _ _ rfl]
      simp [hl.ownReplies u]
    · rw [ownLog_append_other _ _ (Ne.symm hug)]
      simpa [setThread_ne _ _ hug] using hl.ownReplies u

/-- Letting the mutex go with no call to make, which a goroutine that read the items never
does; it changes nothing the invariant speaks of. -/
theorem release_linear (hl : Linear q₀ calls s log) {g : Nat} {q : Queue α}
    (hread : (s.threads g).phase = .read q) :
    Linear q₀ calls
      { s with holder := none, threads := s.setThread g { s.threads g with phase := .idle } }
      log := by
  have hg : s.holder = some g := hl.exclusive.holds g (by simp [hread])
  have hidle : ∀ u, u ≠ g → (s.threads u).phase = .idle := fun u hu =>
    hl.exclusive.others_idle hg hu
  refine ⟨⟨fun u hu => ?_, fun u q' hu => ?_⟩, hl.replies, hl.items, fun u => ?_, fun u => ?_⟩
  · by_cases hug : u = g
    · subst hug; simp at hu
    · simp [setThread_ne _ _ hug, hidle u hug] at hu
  · by_cases hug : u = g
    · subst hug; simp at hu
    · simp [setThread_ne _ _ hug, hidle u hug] at hu
  · by_cases hug : u = g
    · subst hug; simpa using hl.own u
    · simpa [setThread_ne _ _ hug] using hl.own u
  · by_cases hug : u = g
    · subst hug; simpa using hl.ownReplies u
    · simpa [setThread_ne _ _ hug] using hl.ownReplies u

/-- One move of one goroutine keeps the invariant, with its finished call, if any, appended to
the log. -/
theorem step_linear (hl : Linear q₀ calls s log) (g : Nat) :
    Linear q₀ calls (s.step g).1 (log ++ (s.step g).2.toList) := by
  rcases ht : s.threads g with ⟨cs, ph, rs⟩
  cases ph with
  | idle =>
    cases cs with
    | nil => simpa [step, ht] using hl
    | cons c rest =>
      cases hh : s.holder with
      | none =>
        simpa [step, ht, hh] using lock_linear (g := g) hl hh
      | some h => simpa [step, ht, hh] using hl
  | locked =>
    have hlocked : (s.threads g).phase = .locked := by rw [ht]
    simpa [step, ht] using read_linear hl hlocked
  | read q =>
    have hread : (s.threads g).phase = .read q := by rw [ht]
    cases cs with
    | nil => simpa [step, ht] using release_linear hl hread
    | cons c rest =>
      have hcalls : (s.threads g).calls = c :: rest := by rw [ht]
      simpa [step, ht] using write_linear hl hread hcalls

/-- Every schedule keeps the invariant. -/
theorem runSchedule_linear (hl : Linear q₀ calls s log) (sched : List Nat) :
    Linear q₀ calls (s.runSchedule sched).1 (log ++ (s.runSchedule sched).2) := by
  induction sched generalizing s log with
  | nil => simpa [runSchedule] using hl
  | cons g gs ih =>
    simpa [runSchedule, List.append_assoc] using ih (step_linear hl g)

/-- A finished call is one of the calls its goroutine makes. -/
theorem Linear.mem_calls (hl : Linear q₀ calls s log) {d : Done α} (hd : d ∈ log) :
    d.call ∈ calls d.thread := by
  have hown : d ∈ ownLog log d.thread := by simp [ownLog, hd]
  rw [← hl.own d.thread]
  exact List.mem_append_left _ (List.mem_map_of_mem hown)

end Shared

open Shared

/-- The items pushed by the calls of goroutine `g` among `log`, as owned by `owner`: filtering
everything pushed by owner keeps exactly these when every goroutine pushes only its own
items. -/
theorem filter_pushed_of_owned (owner : α → Nat) (calls : Nat → List (Call α))
    (hown : ∀ g, ∀ c ∈ calls g, ∀ x ∈ c.pushed, owner x = g) (log : List (Done α))
    (hlog : ∀ d ∈ log, d.call ∈ calls d.thread) (g : Nat) :
    ((log.map Done.call).flatMap Call.pushed).filter (owner · == g) =
      ((ownLog log g).map Done.call).flatMap Call.pushed := by
  induction log with
  | nil => rfl
  | cons d log ih =>
    have hrest := ih (fun d' hd' => hlog d' (List.mem_cons_of_mem _ hd'))
    have hd : ∀ x ∈ d.call.pushed, owner x = d.thread := hown _ _ (hlog d List.mem_cons_self)
    by_cases hdg : d.thread = g
    · have hkeep : d.call.pushed.filter (owner · == g) = d.call.pushed :=
        List.filter_eq_self.2 fun x hx => by simp [hd x hx, hdg]
      have hcons : ownLog (d :: log) g = d :: ownLog log g := by simp [ownLog, hdg]
      rw [hcons, List.map_cons, List.flatMap_cons, List.filter_append, hkeep, hrest,
        List.map_cons, List.flatMap_cons]
    · have hdrop : d.call.pushed.filter (owner · == g) = [] :=
        List.filter_eq_nil_iff.2 fun x hx => by simp [hd x hx, hdg]
      have hcons : ownLog (d :: log) g = ownLog log g := by simp [ownLog, hdg]
      rw [hcons, List.map_cons, List.flatMap_cons, List.filter_append, hdrop, hrest,
        List.nil_append]

/-- **A shared queue is one list, call after call.** From a queue `q₀` shared by goroutines that
make the calls `calls g`, under every schedule: the calls that finished, made one after another
on the list model in the order they finished, give exactly the replies the goroutines got and
leave the queue's items; each goroutine finished a prefix of its own calls, in order, and got
their replies. Every item queued or pushed is removed once, by a pop or a drain that returns
it or by a clear that drops it, in the order it was queued, or is still queued. When each
goroutine pushes only its own items, the items of a goroutine leave the queue in the order it
pushed them. -/
theorem shared_queue_linearizable (q₀ : Queue α) (calls : Nat → List (Call α))
    (sched : List Nat) :
    let r := (start q₀ calls).runSchedule sched
    replay q₀.items (r.2.map Done.call) = (r.2.map Done.reply, r.1.queue.items) ∧
    (∀ g, (ownLog r.2 g).map Done.call <+: calls g ∧
      (r.1.threads g).replies = (ownLog r.2 g).map Done.reply) ∧
    q₀.items ++ (r.2.map Done.call).flatMap Call.pushed =
      removedAlong q₀.items (r.2.map Done.call) ++ r.1.queue.items ∧
    ∀ owner : α → Nat, (∀ g, ∀ c ∈ calls g, ∀ x ∈ c.pushed, owner x = g) → ∀ g,
      (removedAlong q₀.items (r.2.map Done.call) ++ r.1.queue.items).filter (owner · == g) =
        q₀.items.filter (owner · == g) ++ ((ownLog r.2 g).map Done.call).flatMap Call.pushed := by
  intro r
  have hl : Linear q₀ calls r.1 r.2 := by
    simpa using runSchedule_linear (start_linear q₀ calls) sched
  have hcons := replay_conserves q₀.items (r.2.map Done.call)
  rw [hl.items] at hcons
  refine ⟨Prod.ext hl.replies hl.items, fun g => ⟨⟨_, hl.own g⟩, hl.ownReplies g⟩, hcons,
    fun owner hown g => ?_⟩
  rw [← hcons, List.filter_append,
    filter_pushed_of_owned owner calls hown r.2 (fun d hd => hl.mem_calls hd) g]

/-- Goroutine 0 pushes two items while goroutine 1 pushes one and then drains the queue, each
item tagged with its goroutine. Goroutine 1 pushes first and drains last, and goroutine 0's
items leave in the order it pushed them. -/
theorem owned_pushes_leave_in_push_order :
    let calls : Nat → List (Call (Nat × Nat)) := fun g =>
      if g = 0 then [.push [(0, 1), (0, 2)]] else if g = 1 then [.push [(1, 5)], .drain 0] else []
    let r := (start {} calls).runSchedule [1, 1, 1, 0, 0, 0, 1, 1, 1]
    (∀ g, ∀ c ∈ calls g, ∀ x ∈ c.pushed, x.1 = g) ∧
      (removedAlong [] (r.2.map Done.call) ++ r.1.queue.items).filter (·.1 == 0) =
        [(0, 1), (0, 2)] := by
  intro calls r
  have hown : ∀ g, ∀ c ∈ calls g, ∀ x ∈ c.pushed, x.1 = g := by
    intro g c hc x hx
    by_cases h0 : g = 0
    · subst h0
      simp only [calls, if_true, List.mem_singleton] at hc
      subst hc
      simp only [Call.pushed, List.mem_cons, List.not_mem_nil, or_false] at hx
      rcases hx with rfl | rfl <;> rfl
    · by_cases h1 : g = 1
      · subst h1
        simp only [calls, one_ne_zero, if_false, if_true, List.mem_cons, List.not_mem_nil,
          or_false] at hc
        rcases hc with rfl | rfl <;>
          simp only [Call.pushed, List.mem_singleton, List.not_mem_nil] at hx
        subst hx; rfl
      · simp [calls, h0, h1] at hc
  refine ⟨hown, ?_⟩
  rw [(shared_queue_linearizable {} calls _).2.2.2 Prod.fst hown 0]
  decide

end SailSim.Queue
