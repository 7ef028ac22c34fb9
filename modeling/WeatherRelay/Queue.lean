/-! Bounded queues between one sender and one receiver. -/

set_option autoImplicit false

namespace WeatherRelay

structure Queue (α : Type) where
  capacity : Nat
  /-- Oldest first. -/
  items : List α := []
  /-- Whether the receiver is still there. -/
  listening : Bool := true
  /-- Whether the sender is still there. -/
  fed : Bool := true
  deriving DecidableEq, Repr

/-- What becomes of an item that is offered to a queue. -/
inductive Offer (α : Type) where
  | taken (queue : Queue α)
  /-- Nobody receives any more. -/
  | refused
  /-- The sender has to wait for room. -/
  | full

namespace Queue

variable {α : Type}

def offer (queue : Queue α) (item : α) : Offer α :=
  if !queue.listening then .refused
  else if queue.capacity ≤ queue.items.length then .full
  else .taken { queue with items := queue.items ++ [item] }

def take? (queue : Queue α) : Option (α × Queue α) :=
  match queue.items with
  | [] => none
  | item :: rest => some (item, { queue with items := rest })

/-- The receiver goes away, and with it all that it has not taken. -/
def hangUp (queue : Queue α) : Queue α := { queue with listening := false, items := [] }

/-- The sender goes away. What is queued can still be taken. -/
def endFeed (queue : Queue α) : Queue α := { queue with fed := false }

end Queue

end WeatherRelay
