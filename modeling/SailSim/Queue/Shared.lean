import SailSim.Queue

/-!
# A queue shared by goroutines

Every method of the queue holds its mutex for the whole call: it reads the items, works out
what to leave and what to answer, and writes the items back before it lets go. (`empty` asks
`len` and compares; the comparison needs no lock.) This file states what calls from any number
of goroutines do under any schedule.

* `Call.run`: a call made all at once on the queue, with its reply. Pushing appends its items
  in order, popping takes the front item (or reports an empty queue), draining takes the front
  `limit` items (all of them when `limit` is not positive), clearing drops every item, and
  `len` and `empty` look at the length.
* `Shared`: the queue, the mutex (the goroutine holding it, if any) and the goroutines, each
  with the calls it has still to make, where it stands in the current one (`Phase`) and the
  replies of the calls it finished.
* `Shared.step`: the goroutine the scheduler picks moves once. Between calls it takes the mutex
  when nobody holds it, and otherwise waits; holding it, it reads the items; having read them,
  it writes back what its call leaves of what it read, keeps the reply and lets the mutex go.
  The finished call is reported, so `Shared.runSchedule` gives the calls in the order they
  finished.
-/

namespace SailSim.Queue

variable {α : Type}

/-- A call on a queue. -/
inductive Call (α : Type) where
  | push (xs : List α)
  | pop
  | drain (limit : Int)
  | len
  | empty
  | clear
  deriving Repr

/-- What a call answers: nothing (`push`, `clear`), the front item if there was one (`pop`),
the items taken (`drain`), the length (`len`), or whether there were no items (`empty`). -/
inductive Reply (α : Type) where
  | none
  | popped (x : Option α)
  | drained (xs : List α)
  | length (n : Nat)
  | isEmpty (b : Bool)
  deriving Repr, DecidableEq

/-- A call made at once on `q`: its reply and the queue it leaves. -/
def Call.run : Call α → Queue α → Reply α × Queue α
  | .push xs, q => (.none, q.push xs)
  | .pop, q => match q.pop with
    | some (x, q') => (.popped (some x), q')
    | none => (.popped none, q)
  | .drain limit, q => let (xs, q') := q.drain limit; (.drained xs, q')
  | .len, q => (.length q.length, q)
  | .empty, q => (.isEmpty q.isEmpty, q)
  | .clear, q => (.none, q.clear)

/-- Where a goroutine stands in its current call. -/
inductive Phase (α : Type) where
  /-- Between calls, or waiting for the mutex. -/
  | idle
  /-- Holding the mutex, before reading the items. -/
  | locked
  /-- Holding the mutex, having read the queue `q`. -/
  | read (q : Queue α)

/-- A goroutine: the calls it has still to make, the first being the current one, where it
stands in that call, and the replies of the calls it finished, oldest first. -/
structure Goroutine (α : Type) where
  calls : List (Call α)
  phase : Phase α := .idle
  replies : List (Reply α) := []

/-- A finished call: the goroutine that made it, the call and its reply. -/
structure Done (α : Type) where
  thread : Nat
  call : Call α
  reply : Reply α

/-- The queue, its mutex and the goroutines that share it. -/
structure Shared (α : Type) where
  queue : Queue α
  /-- The goroutine holding the mutex. -/
  holder : Option Nat := none
  threads : Nat → Goroutine α

namespace Shared

/-- The queue `q` before any call, shared by goroutines that make the calls `calls g`. -/
def start (q : Queue α) (calls : Nat → List (Call α)) : Shared α :=
  { queue := q, threads := fun g => { calls := calls g } }

/-- The goroutines with goroutine `g` replaced by `t`. -/
def setThread (s : Shared α) (g : Nat) (t : Goroutine α) : Nat → Goroutine α :=
  fun u => if u = g then t else s.threads u

/-- Goroutine `g` moves once, reporting the call it finished, if it finished one. -/
def step (s : Shared α) (g : Nat) : Shared α × Option (Done α) :=
  let t := s.threads g
  match t.phase, t.calls with
  | .idle, _ :: _ =>
    match s.holder with
    | none => ({ s with holder := some g, threads := s.setThread g { t with phase := .locked } }, none)
    | some _ => (s, none)
  | .idle, [] => (s, none)
  | .locked, _ => ({ s with threads := s.setThread g { t with phase := .read s.queue } }, none)
  | .read q, c :: rest =>
    let (r, q') := c.run q
    ({ queue := q', holder := none,
       threads := s.setThread g { calls := rest, phase := .idle, replies := t.replies ++ [r] } },
     some ⟨g, c, r⟩)
  | .read _, [] => ({ s with holder := none, threads := s.setThread g { t with phase := .idle } }, none)

/-- The goroutines move in the order the schedule names them; the calls are reported in the
order they finished. -/
def runSchedule : Shared α → List Nat → Shared α × List (Done α)
  | s, [] => (s, [])
  | s, g :: gs =>
    let (s', d) := s.step g
    let (s'', ds) := runSchedule s' gs
    (s'', d.toList ++ ds)

end Shared

end SailSim.Queue
