import WeatherRelay.Pipeline
import WeatherRelay.Proofs.Chain.Handling
import WeatherRelay.Proofs.FanOut.Lossless

/-! Consumers that keep up with the distributor, each on a part of one state.

No queue is full when a reading is distributed, since every one of them has been emptied. So each
consumer that is still there gets every reading, and to its own part it does what it would do on the
readings in a row.
-/

set_option autoImplicit false

namespace WeatherRelay

namespace Consumer

variable {σ τ : Type}

/-- To a part of its state a consumer does what another one does by itself. -/
def WorksOn (whole : Consumer τ) (part? : τ → Option σ) (consumer : Consumer σ) : Prop :=
  ∀ readings kept state, part? kept = some state →
    (whole.drain readings kept).1 = (consumer.drain readings state).1 ∧
      part? (whole.drain readings kept).2.2 = some (consumer.drain readings state).2.2

/-- A consumer does nothing to a part of its state. -/
def LeavesAlone (whole : Consumer τ) (part? : τ → Option σ) : Prop :=
  ∀ readings kept, part? (whole.drain readings kept).2.2 = part? kept

section Within

variable {consumer : Consumer σ} {part? : τ → Option σ} {put : σ → τ → τ}

theorem consume_within {reading : Reading} {kept : τ} {state : σ}
    (found : part? kept = some state) :
    (consumer.within part? put).consume reading kept =
      ((consumer.consume reading state).1, put (consumer.consume reading state).2 kept) := by
  rcases handled : consumer.handle reading state with ⟨(cause | _) | events, last⟩ <;>
    simp [consume, within, found, handled]

theorem worksOn_within
    (puts : ∀ state next kept, part? kept = some state → part? (put next kept) = some next) :
    (consumer.within part? put).WorksOn part? consumer := by
  intro readings
  induction readings with
  | nil => exact fun kept state found => ⟨rfl, found⟩
  | cons reading rest ih =>
    intro kept state found
    unfold drain
    rw [consume_within found]
    rcases consumer.consume reading state with ⟨_ | events, next⟩
    · exact ⟨rfl, puts state next kept found⟩
    · exact ih (put next kept) next (puts state next kept found)

theorem leavesAlone_within {ρ : Type} {other? : τ → Option ρ}
    (leaves : ∀ next kept, other? (put next kept) = other? kept) :
    (consumer.within part? put).LeavesAlone other? := by
  have consumed (reading : Reading) (kept : τ) :
      other? ((consumer.within part? put).consume reading kept).2 = other? kept := by
    cases found : part? kept with
    | none => simp [consume, within, found]
    | some state =>
      rw [consume_within found]
      exact leaves _ kept
  intro readings
  induction readings with
  | nil => exact fun _ => rfl
  | cons reading rest ih =>
    intro kept
    have same := consumed reading kept
    unfold drain
    rcases outcome : (consumer.within part? put).consume reading kept with ⟨_ | events, next⟩
    · rw [outcome] at same
      exact same
    · rw [outcome] at same
      exact (ih next).trans same

end Within

end Consumer

namespace Pipeline

open Consumer

variable {σ τ : Type} {part? : τ → Option σ} {pipeline : Pipeline τ}

-- One turn of the consumers, in the order of their routes. Only the consumer at a position touches
-- the route there, so its turn is all that is to be known of the route.

/-- A queue after its consumer was at it, which may have crashed there. -/
def cleared (alive : Bool) (route : Route) : Route :=
  { route with queue := if alive then { route.queue with items := [] } else route.queue.hangUp }

theorem attend_eq {position : Nat} {route : Route} (consumer : Consumer τ)
    (found : pipeline.distributor.routes[position]? = some route) :
    (pipeline.attend position consumer).state =
        (consumer.drain route.queue.items pipeline.state).2.2 ∧
      (pipeline.attend position consumer).distributor.routes[position]? =
        some (cleared (consumer.drain route.queue.items pipeline.state).1 route) := by
  unfold attend
  simp only [found]
  refine ⟨trivial, ?_⟩
  simp [Distributor.updateQueue, found, cleared]

theorem attend_elsewhere {position other : Nat} (consumer : Consumer τ) (away : other ≠ position) :
    (pipeline.attend position consumer).distributor.routes[other]? =
      pipeline.distributor.routes[other]? := by
  unfold attend
  simp [Distributor.updateQueue, Ne.symm away]

theorem attend_leaves {consumer : Consumer τ} (leaves : consumer.LeavesAlone part?) (position : Nat) :
    part? (pipeline.attend position consumer).state = part? pipeline.state :=
  leaves _ _

theorem length_routes_attend (pipeline : Pipeline τ) (position : Nat) (consumer : Consumer τ) :
    (pipeline.attend position consumer).distributor.routes.length =
      pipeline.distributor.routes.length := by
  unfold attend
  simp [Distributor.updateQueue]

theorem length_routes_attendFrom (pipeline : Pipeline τ) (position : Nat)
    (consumers : List (Consumer τ)) :
    (pipeline.attendFrom position consumers).distributor.routes.length =
      pipeline.distributor.routes.length := by
  induction consumers generalizing pipeline position with
  | nil => rfl
  | cons consumer rest ih => exact (ih _ _).trans (length_routes_attend pipeline position consumer)

theorem attendFrom_before {position other : Nat} (consumers : List (Consumer τ))
    (before : other < position) :
    (pipeline.attendFrom position consumers).distributor.routes[other]? =
      pipeline.distributor.routes[other]? := by
  induction consumers generalizing pipeline position with
  | nil => rfl
  | cons consumer rest ih =>
    exact (ih (Nat.lt_succ_of_lt before)).trans (attend_elsewhere consumer (Nat.ne_of_lt before))

theorem attendFrom_leaves {consumers : List (Consumer τ)}
    (leaves : ∀ consumer ∈ consumers, consumer.LeavesAlone part?) (position : Nat) :
    part? (pipeline.attendFrom position consumers).state = part? pipeline.state := by
  induction consumers generalizing pipeline position with
  | nil => rfl
  | cons consumer rest ih =>
    obtain ⟨here, others⟩ := List.forall_mem_cons.mp leaves
    exact (ih others (position + 1)).trans (attend_leaves here position)

/-- A consumer attends to its queue once. The others are at theirs before and after that. -/
theorem attendFrom_here {before after : List (Consumer τ)} {consumer : Consumer τ}
    {position : Nat} {route : Route}
    (leaves : ∀ other ∈ before ++ after, other.LeavesAlone part?)
    (found : pipeline.distributor.routes[position + before.length]? = some route) :
    ∃ kept, part? kept = part? pipeline.state ∧
      part? (pipeline.attendFrom position (before ++ consumer :: after)).state =
        part? (consumer.drain route.queue.items kept).2.2 ∧
      (pipeline.attendFrom position (before ++ consumer :: after)).distributor.routes[
        position + before.length]? =
        some (cleared (consumer.drain route.queue.items kept).1 route) := by
  induction before generalizing pipeline position with
  | nil =>
    obtain ⟨state, cleared⟩ := attend_eq consumer found
    refine ⟨pipeline.state, rfl, ?_, ?_⟩
    · rw [← state]
      exact attendFrom_leaves leaves (position + 1)
    · rw [← cleared]
      exact attendFrom_before after (Nat.lt_succ_self _)
  | cons other before ih =>
    obtain ⟨here, others⟩ := List.forall_mem_cons.mp leaves
    have shift : position + (other :: before).length = position + 1 + before.length := by
      rw [List.length_cons, Nat.add_right_comm, Nat.add_assoc]
    rw [shift] at found ⊢
    have there : (pipeline.attend position other).distributor.routes[position + 1 + before.length]? =
        some route := (attend_elsewhere other (by omega)).trans found
    obtain ⟨kept, same, state, cleared⟩ := ih others there
    exact ⟨kept, same.trans (attend_leaves here position), state, cleared⟩

/-- No queue holds anything back. -/
def Emptied (pipeline : Pipeline τ) (consumers : List (Consumer τ)) : Prop :=
  pipeline.distributor.routes.length = consumers.length ∧
    ∀ route ∈ pipeline.distributor.routes, route.queue.items = [] ∧ 0 < route.queue.capacity

/-- A consumer works on a part of the state and the others do nothing to that part. -/
structure Owns (before : List (Consumer τ)) (whole : Consumer τ) (after : List (Consumer τ))
    (part? : τ → Option σ) (consumer : Consumer σ) : Prop where
  works : whole.WorksOn part? consumer
  leaves : ∀ other ∈ before ++ after, other.LeavesAlone part?

/-- The part of a consumer is what it has made of the readings so far, and it receives unless one of
them has crashed it. -/
structure KeepsUp (pipeline : Pipeline τ) (position : Nat) (part? : τ → Option σ)
    (consumer : Consumer σ) (initial : σ) (given : List Reading) : Prop where
  part_eq : part? pipeline.state = some (consumer.drain given initial).2.2
  receives : ∃ route, pipeline.distributor.routes[position]? = some route ∧
    route.queue.listening = (consumer.drain given initial).1

section Step

variable {consumers before after : List (Consumer τ)} {whole : Consumer τ} {consumer : Consumer σ}
  {initial : σ} {given : List Reading}

theorem Emptied.not_full (emptied : pipeline.Emptied consumers) :
    ∀ route ∈ pipeline.distributor.routes, ¬ route.queue.Full := by
  rintro route among ⟨-, full⟩
  obtain ⟨items, room⟩ := emptied.2 route among
  rw [items] at full
  exact absurd full (Nat.not_le_of_lt room)

/-- Since no queue is full the reading comes to all of them before the consumers attend to it. -/
theorem Emptied.step_eq (emptied : pipeline.Emptied consumers) (reading : Reading) :
    pipeline.step consumers reading =
      (.delivered (pipeline.distributor.routes.countP fun route => route.queue.listening),
        { pipeline with distributor := { pipeline.distributor with
            routes := pipeline.distributor.routes.map (Route.handed reading) } }.attendFrom 0
          consumers) := by
  unfold step
  rw [Distributor.distribute_of_room reading emptied.not_full]

theorem cleared_emptied (alive : Bool) (route : Route) :
    (cleared alive route).queue.items = [] ∧
      (cleared alive route).queue.capacity = route.queue.capacity := by
  cases alive <;> exact ⟨rfl, rfl⟩

theorem handed_capacity (reading : Reading) (route : Route) :
    (route.handed reading).queue.capacity = route.queue.capacity := by
  unfold Route.handed
  split <;> rfl

-- Who empties a queue is found by its position in the list of consumers.
theorem Emptied.step (emptied : pipeline.Emptied consumers) (reading : Reading) :
    (pipeline.step consumers reading).2.Emptied consumers := by
  rw [emptied.step_eq]
  refine ⟨by rw [length_routes_attendFrom, List.length_map, emptied.1], fun route among => ?_⟩
  obtain ⟨position, here⟩ := List.mem_iff_getElem?.mp among
  have inside : position < consumers.length := by
    have within := (List.getElem?_eq_some_iff.mp here).1
    rw [length_routes_attendFrom, List.length_map, emptied.1] at within
    exact within
  obtain ⟨before, whole, after, rfl, rfl⟩ : ∃ before whole after,
      consumers = before ++ whole :: after ∧ before.length = position :=
    ⟨consumers.take position, consumers[position], consumers.drop (position + 1), by simp, by
      simp [Nat.le_of_lt inside]⟩
  have within : before.length < pipeline.distributor.routes.length := emptied.1 ▸ inside
  have found : (pipeline.distributor.routes.map (Route.handed reading))[0 + before.length]? =
      some (pipeline.distributor.routes[before.length].handed reading) := by
    rw [Nat.zero_add, List.getElem?_map, List.getElem?_eq_getElem within]
    rfl
  -- Nothing needs to be known of the state here, so the part is an empty one.
  obtain ⟨kept, -, -, cleared⟩ := @attendFrom_here Unit τ (fun _ => none)
    { pipeline with distributor := { pipeline.distributor with
        routes := pipeline.distributor.routes.map (Route.handed reading) } }
    before after whole 0 _ (fun _ _ _ _ => rfl) found
  rw [Nat.zero_add, here] at cleared
  cases cleared
  obtain ⟨items, capacity⟩ := cleared_emptied
    (whole.drain (pipeline.distributor.routes[before.length].handed reading).queue.items kept).1
    (pipeline.distributor.routes[before.length].handed reading)
  refine ⟨items, ?_⟩
  rw [capacity, handed_capacity]
  exact (emptied.2 _ (List.getElem_mem within)).2

theorem KeepsUp.step (keepsUp : pipeline.KeepsUp before.length part? consumer initial given)
    (emptied : pipeline.Emptied (before ++ whole :: after))
    (owns : Owns before whole after part? consumer) (reading : Reading) :
    (pipeline.step (before ++ whole :: after) reading).2.KeepsUp before.length part? consumer initial
      (given ++ [reading]) := by
  obtain ⟨part, route, here, receives⟩ := keepsUp
  obtain ⟨items, -⟩ := emptied.2 route (List.mem_of_getElem? here)
  have found : (pipeline.distributor.routes.map (Route.handed reading))[0 + before.length]? =
      some (route.handed reading) := by
    rw [Nat.zero_add, List.getElem?_map, here]
    rfl
  rw [emptied.step_eq]
  obtain ⟨kept, same, state, cleared⟩ := @attendFrom_here σ τ part?
    { pipeline with distributor := { pipeline.distributor with
        routes := pipeline.distributor.routes.map (Route.handed reading) } }
    before after whole 0 _ owns.leaves found
  obtain ⟨alive, drained⟩ := owns.works (route.handed reading).queue.items kept _ (same.trans part)
  rw [Nat.zero_add] at cleared
  rw [alive] at cleared
  rw [drained] at state
  rcases earlier : consumer.drain given initial with ⟨_ | _, events, last⟩
  · -- It has crashed before, and nothing was handed to it.
    rw [earlier] at receives state cleared
    have nothing : route.handed reading = route := by simp [Route.handed, receives]
    rw [nothing, items] at state cleared
    have stays : consumer.drain (given ++ [reading]) initial = (false, events, last) := by
      rw [Consumer.drain_append, earlier]
    refine ⟨by rw [stays]; exact state, _, cleared, ?_⟩
    rw [stays]
    exact receives
  · -- The reading is alone in its queue, which was emptied after the one before.
    rw [earlier] at receives state cleared
    have queued : (route.handed reading).queue.items = [reading] := by
      simp [Route.handed, receives, items]
    rw [queued] at state cleared
    have further : consumer.drain (given ++ [reading]) initial =
        ((consumer.drain [reading] last).1, events ++ (consumer.drain [reading] last).2.1,
          (consumer.drain [reading] last).2.2) := by
      rw [Consumer.drain_append, earlier]
    refine ⟨by rw [further]; exact state, _, cleared, ?_⟩
    rw [further]
    cases (consumer.drain [reading] last).1 with
    | true => simp [Pipeline.cleared, Route.handed, receives]
    | false => rfl

end Step

/-! ### From the start on -/

theorem withBackends_run (backends : List String) (distributor : Distributor) :
    (backends.forM fun backend => Distributor.withBackend backend (.ok ())).run.run distributor =
      (.ok (), { distributor with routes := distributor.routes ++ backends.map fun backend =>
        ⟨backend, { capacity := distributor.queueSize }⟩ }) := by
  induction backends generalizing distributor with
  | nil =>
    rw [List.map_nil, List.append_nil]
    rfl
  | cons backend rest ih =>
    rw [List.map_cons, List.append_cons]
    exact ih { distributor with
      routes := distributor.routes ++ [⟨backend, { capacity := distributor.queueSize }⟩] }

theorem start_distributor (queueSize : Nat) (backends : List String) (state : τ) :
    (start queueSize backends state).distributor = {
      queueSize := max queueSize 1
      routes := backends.map fun backend => ⟨backend, { capacity := max queueSize 1 }⟩ } := by
  unfold start
  simp only [withBackends_run]
  rfl

section Run

variable {consumers before after : List (Consumer τ)} {whole : Consumer τ} {consumer : Consumer σ}
  {initial : σ} {given : List Reading}

theorem Emptied.run (emptied : pipeline.Emptied consumers) (readings : List Reading) :
    (pipeline.run consumers readings).1.length = readings.length ∧
      (∀ outcome ∈ (pipeline.run consumers readings).1, ∃ count, outcome = .delivered count) ∧
      (pipeline.run consumers readings).2.Emptied consumers := by
  induction readings generalizing pipeline with
  | nil => exact ⟨rfl, List.forall_mem_nil _, emptied⟩
  | cons reading rest ih =>
    obtain ⟨length, delivered, last⟩ := ih (emptied.step reading)
    exact ⟨congrArg (· + 1) length, List.forall_mem_cons.mpr
      ⟨⟨_, congrArg Prod.fst (emptied.step_eq reading)⟩, delivered⟩, last⟩

theorem KeepsUp.run (keepsUp : pipeline.KeepsUp before.length part? consumer initial given)
    (emptied : pipeline.Emptied (before ++ whole :: after))
    (owns : Owns before whole after part? consumer) (readings : List Reading) :
    (pipeline.run (before ++ whole :: after) readings).2.KeepsUp before.length part? consumer initial
      (given ++ readings) := by
  induction readings generalizing pipeline given with
  | nil =>
    rw [List.append_nil]
    exact keepsUp
  | cons reading rest ih =>
    rw [List.append_cons given]
    exact ih (keepsUp.step emptied owns reading) (emptied.step reading)

/-- Consumers that keep up with the distributor miss nothing. Every reading is delivered, and what a
consumer leaves of its own part of the state is what it makes of the readings in a row. -/
theorem run_keepsUp (consumers : List (Consumer τ)) (queueSize : Nat) (state : τ)
    (readings : List Reading) :
    (((start queueSize (consumers.map Consumer.backend) state).run consumers readings).1.length =
        readings.length ∧
      ∀ outcome ∈ ((start queueSize (consumers.map Consumer.backend) state).run consumers readings).1,
        ∃ count, outcome = .delivered count) ∧
    ∀ (before : List (Consumer τ)) (whole : Consumer τ) (after : List (Consumer τ))
      (part? : τ → Option σ) (consumer : Consumer σ) (initial : σ),
      consumers = before ++ whole :: after → Owns before whole after part? consumer →
      part? state = some initial →
      ((start queueSize (consumers.map Consumer.backend) state).run consumers readings).2.KeepsUp
        before.length part? consumer initial readings := by
  have distributor := start_distributor queueSize (consumers.map Consumer.backend) state
  have emptied : (start queueSize (consumers.map Consumer.backend) state).Emptied consumers := by
    unfold Emptied
    rw [distributor]
    refine ⟨by simp, fun route among => ?_⟩
    obtain ⟨_, -, rfl⟩ := List.mem_map.mp among
    exact ⟨rfl, Nat.le_max_right queueSize 1⟩
  obtain ⟨length, delivered, -⟩ := emptied.run readings
  refine ⟨⟨length, delivered⟩, fun before whole after part? consumer initial split owns part => ?_⟩
  subst split
  have started : (start queueSize ((before ++ whole :: after).map Consumer.backend) state).KeepsUp
      before.length part? consumer initial [] := by
    refine ⟨part, ⟨whole.backend, { capacity := max queueSize 1 }⟩, ?_, rfl⟩
    rw [distributor]
    simp
  exact started.run emptied owns readings

end Run

end Pipeline

end WeatherRelay
