/-! Bounded queues between the stages of a node. Putting an item in never waits: it succeeds or fails. -/
namespace Telemetry

structure Queue (α : Type) where
  capacity : Nat
  /-- Oldest first. -/
  items : List α := []
  /-- There is still somebody to take items. -/
  receiving : Bool := true
  /-- Somebody stands ready to take an item at once, which a queue without room of its own needs. -/
  attended : Bool := false
  /-- Nobody will put in items any more. -/
  finished : Bool := false
  deriving DecidableEq, Repr

namespace Queue

variable {α : Type}

/-- Items that fit, counting a taker that stands ready at a queue without room. -/
def room (queue : Queue α) : Nat :=
  if queue.attended then max queue.capacity 1 else queue.capacity

/-- Whether one more item is taken. -/
def accepts (queue : Queue α) : Bool :=
  queue.receiving && queue.items.length < queue.room

/-- Puts an item at the end. -/
def push? (queue : Queue α) (item : α) : Option (Queue α) :=
  if queue.accepts then some { queue with items := queue.items ++ [item] } else none

/-- The same queue with other items. -/
def withItems (queue : Queue α) (items : List α) : Queue α :=
  { queue with items }

/-- The queue once an item was offered, taken or not. -/
def offer (queue : Queue α) (item : α) : Queue α :=
  (queue.push? item).getD queue

theorem offer_of_accepts {queue : Queue α} {item : α} (h : queue.accepts = true) :
    queue.offer item = queue.withItems (queue.items ++ [item]) := by
  simp [offer, push?, h, withItems]

theorem offer_of_not_accepts {queue : Queue α} {item : α} (h : queue.accepts = false) :
    queue.offer item = queue := by
  simp [offer, push?, h]

theorem push?_of_accepts {queue : Queue α} {item : α} (h : queue.accepts = true) :
    queue.push? item = some (queue.offer item) := by
  simp [offer, push?, h]

theorem push?_of_not_accepts {queue : Queue α} {item : α} (h : queue.accepts = false) :
    queue.push? item = none := by
  simp [push?, h]

/-- Nobody takes items any more. -/
def close (queue : Queue α) : Queue α :=
  { queue with receiving := false }

/-- Nobody puts in items any more. -/
def finish (queue : Queue α) : Queue α :=
  { queue with finished := true }

end Queue

end Telemetry
