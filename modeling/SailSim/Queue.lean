/-!
# First-in first-out queues

A `Queue α` holds items in the order they were pushed. `push` appends several items in
their order, `pop` removes the oldest, `drain limit` removes and returns the oldest `limit`
items (all of them when `limit` is not positive or exceeds the length) and `clear` empties
the queue. Each operation is stated on the list of items it holds.
-/

namespace SailSim

/-- Items in push order, oldest first. -/
structure Queue (α : Type) where
  items : List α := []
  deriving Repr

namespace Queue

variable {α : Type}

/-- The queue with `xs` appended in order. -/
def push (q : Queue α) (xs : List α) : Queue α := ⟨q.items ++ xs⟩

/-- The oldest item and the queue without it, or nothing when empty. -/
def pop (q : Queue α) : Option (α × Queue α) :=
  match q.items with
  | [] => none
  | x :: xs => some (x, ⟨xs⟩)

/-- The number of items. -/
def length (q : Queue α) : Nat := q.items.length

/-- Whether the queue holds nothing. -/
def isEmpty (q : Queue α) : Bool := q.items.isEmpty

/-- How many items `drain limit` takes from a queue of `n`. -/
def drainCount (n : Nat) (limit : Int) : Nat :=
  if 0 < limit && limit < n then limit.toNat else n

/-- The oldest items up to `limit` (all when `limit ≤ 0`) and the queue without them. -/
def drain (q : Queue α) (limit : Int) : List α × Queue α :=
  let k := drainCount q.length limit
  (q.items.take k, ⟨q.items.drop k⟩)

/-- The empty queue. -/
def clear (_q : Queue α) : Queue α := ⟨[]⟩

@[simp] theorem items_push (q : Queue α) (xs : List α) : (q.push xs).items = q.items ++ xs := rfl

@[simp] theorem items_clear (q : Queue α) : q.clear.items = [] := rfl

end Queue

end SailSim
