import WeatherRelay.Consumer
import WeatherRelay.Distributor

/-! A distributor whose consumers keep up with it: whenever a reading is distributed, each of them
takes what is in its queue, one after the other.
-/

set_option autoImplicit false

namespace WeatherRelay

structure Pipeline (σ : Type) where
  distributor : Distributor
  /-- What the consumers work on. -/
  state : σ
  events : List Event := []

namespace Pipeline

variable {σ : Type}

/-- Start with a queue for every consumer, none of which fails to start. -/
def start (queueSize : Nat) (backends : List String) (state : σ) : Pipeline σ :=
  let adding : Distributor.Setup Unit :=
    backends.forM fun backend => Distributor.withBackend backend (.ok ())
  { distributor := (adding.run.run (.ofQueueSize queueSize)).2, state }

/-- Let a consumer handle all that is queued for it. When it crashes its queue goes with it. -/
def attend (pipeline : Pipeline σ) (position : Nat) (consumer : Consumer σ) : Pipeline σ :=
  let queued :=
    match pipeline.distributor.routes[position]? with
    | some route => route.queue.items
    | none => []
  let (alive, events, state) := consumer.drain queued pipeline.state
  let clear (queue : Queue Reading) : Queue Reading :=
    if alive then { queue with items := [] } else queue.hangUp
  { distributor := pipeline.distributor.updateQueue position clear
    state
    events := pipeline.events ++ events }

/-- Let consumers handle what is queued for them, the first of them at a position. -/
def attendFrom (pipeline : Pipeline σ) (position : Nat) : List (Consumer σ) → Pipeline σ
  | [] => pipeline
  | consumer :: rest => (pipeline.attend position consumer).attendFrom (position + 1) rest

/-- Distribute a reading and let the consumers handle it. -/
def step (pipeline : Pipeline σ) (consumers : List (Consumer σ)) (reading : Reading) :
    Distribution × Pipeline σ :=
  let (outcome, distributor) := pipeline.distributor.distribute reading
  (outcome, { pipeline with distributor }.attendFrom 0 consumers)

def run (pipeline : Pipeline σ) (consumers : List (Consumer σ)) :
    List Reading → List Distribution × Pipeline σ
  | [] => ([], pipeline)
  | reading :: rest =>
    let (outcome, pipeline) := pipeline.step consumers reading
    let (outcomes, pipeline) := pipeline.run consumers rest
    (outcome :: outcomes, pipeline)

end Pipeline

end WeatherRelay
