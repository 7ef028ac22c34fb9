import WeatherRelay.Fault
import WeatherRelay.Queue
import WeatherRelay.Reading

/-! The distributor hands every reading to every backend, each through a bounded queue.

A reading visits the backends in the order in which they were added. It waits where a queue is
full, and passes over a backend that no longer takes readings.
-/

set_option autoImplicit false

namespace WeatherRelay

structure Route where
  backend : String
  queue : Queue Reading
  deriving DecidableEq

/-- A reading on its way through the routes. -/
structure Delivery where
  reading : Reading
  /-- The number of routes behind it. -/
  position : Nat := 0
  /-- The number of queues that took it. -/
  accepted : Nat := 0
  deriving DecidableEq

inductive Turn where
  | moved (routes : List Route) (delivery : Delivery)
  /-- The queue at its position is full. -/
  | waits
  /-- No route is left. -/
  | arrived
  deriving DecidableEq

/-- Offer the reading to the route at its position. -/
def Delivery.turn (routes : List Route) (delivery : Delivery) : Turn :=
  match routes[delivery.position]? with
  | none => .arrived
  | some route =>
    match route.queue.offer delivery.reading with
    | .full => .waits
    | .refused => .moved routes { delivery with position := delivery.position + 1 }
    | .taken queue =>
      .moved (routes.set delivery.position { route with queue })
        { delivery with position := delivery.position + 1, accepted := delivery.accepted + 1 }

/-- How a delivery ends that nobody makes room for. -/
inductive Distribution where
  | delivered (count : Nat)
  | blocked
  deriving DecidableEq, Repr

/-- Turns until the reading has arrived or has to wait; `turns` bounds their number. -/
def Delivery.proceed (turns : Nat) (routes : List Route) (delivery : Delivery) :
    Distribution × List Route :=
  match turns with
  | 0 => (.delivered delivery.accepted, routes)
  | turns + 1 =>
    match delivery.turn routes with
    | .arrived => (.delivered delivery.accepted, routes)
    | .waits => (.blocked, routes)
    | .moved routes delivery => delivery.proceed turns routes

structure Distributor where
  queueSize : Nat
  routes : List Route := []
  deriving DecidableEq

inductive RunOutcome where
  | finished
  /-- It waits for a full queue or for more readings. -/
  | waiting
  deriving DecidableEq, Repr

namespace Distributor

/-- Work on a distributor. A failure leaves the distributor as it is by then. -/
abbrev Setup := ExceptT Setback (StateM Distributor)

/-- A distributor without backends; its queues have room for at least one reading. -/
def ofQueueSize (size : Nat) : Distributor := { queueSize := max size 1 }

/-- Add a backend. It gets a queue and is started with it, which ends as given; only then there is
a route to it. -/
def withBackend (backend : String) (started : Attempt Unit) : Setup Unit := do
  let queue : Queue Reading := { capacity := (← get).queueSize }
  ofExcept started
  modify fun distributor => { distributor with routes := distributor.routes ++ [⟨backend, queue⟩] }

def backends (distributor : Distributor) : List String := distributor.routes.map Route.backend

/-- Hand a reading to every backend; given up where a queue is full. -/
def distribute (distributor : Distributor) (reading : Reading) : Distribution × Distributor :=
  let (outcome, routes) :=
    ({ reading } : Delivery).proceed (distributor.routes.length + 1) distributor.routes
  (outcome, { distributor with routes })

/-- Distribute readings as they come, until a queue is full, and up to the end of the feed. -/
def runFeed (distributor : Distributor) (fed : Bool) : List Reading → RunOutcome × Distributor
  | [] => (if fed then .waiting else .finished, distributor)
  | reading :: rest =>
    match distributor.distribute reading with
    | (.blocked, distributor) => (.waiting, distributor)
    | (.delivered _, distributor) => distributor.runFeed fed rest

/-- Run on a queue of incoming readings, unless there is a shutdown. -/
def run (distributor : Distributor) (shutdown : Bool) (incoming : Queue Reading) :
    RunOutcome × Distributor :=
  if shutdown then (.finished, distributor) else distributor.runFeed incoming.fed incoming.items

def updateQueue (distributor : Distributor) (position : Nat)
    (change : Queue Reading → Queue Reading) : Distributor :=
  { distributor with
    routes := distributor.routes.modify position fun route =>
      { route with queue := change route.queue } }

/-- End the feed of every queue. The backends take what is left and stop. -/
def close (distributor : Distributor) : Distributor :=
  { distributor with
    routes := distributor.routes.map fun route => { route with queue := route.queue.endFeed } }

end Distributor

end WeatherRelay
