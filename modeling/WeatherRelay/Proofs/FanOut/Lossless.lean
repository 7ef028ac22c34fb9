import Mathlib.Data.List.Induction
import WeatherRelay.Proofs.FanOut.Departed
import WeatherRelay.Proofs.FanOut.GivenUp

/-! Fan-out from registration on: no reading is lost, doubled or out of order for any backend that
stays, whatever the others do.
-/

set_option autoImplicit false

namespace WeatherRelay

namespace Distributor

/-- Backends one after the other, each with how its start ended. One that fails is not the end of it:
the next one is added to what it left. -/
def register (size : Nat) (starts : List (String × Attempt Unit)) : Distributor :=
  starts.foldl (fun distributor start => ((withBackend start.1 start.2).run.run distributor).2)
    (ofQueueSize size)

/-- Adding a backend ends as its start does, and only a backend that has started is among the
routes. -/
theorem withBackend_run (backend : String) (started : Attempt Unit) (distributor : Distributor) :
    (withBackend backend started).run.run distributor = (started,
      if started = .ok () then
        { distributor with
          routes := distributor.routes ++ [⟨backend, { capacity := distributor.queueSize }⟩] }
      else distributor) := by
  cases started <;> rfl

theorem register_eq (size : Nat) (starts : List (String × Attempt Unit)) :
    register size starts = { queueSize := max size 1, routes :=
      (starts.filter fun start => start.2 = .ok ()).map fun start =>
        ⟨start.1, { capacity := max size 1 }⟩ } := by
  unfold register
  induction starts using List.reverseRecOn with
  | nil => rfl
  | append_singleton earlier start ih =>
    rw [List.foldl_append, ih, List.foldl_cons, List.foldl_nil, withBackend_run]
    by_cases started : start.2 = .ok () <;> simp [started]

end Distributor

namespace FanOut

open Distributor

variable {size : Nat} {starts : List (String × Attempt Unit)} {trace : List Event}
  {state : FanOut}

theorem register_queue {position : Nat} {route : Route}
    (found : (register size starts).routes[position]? = some route) :
    route.queue = { capacity := max size 1 } := by
  rw [register_eq] at found
  obtain ⟨start, _, rfl⟩ := List.mem_map.mp (List.mem_of_getElem? found)
  rfl

-- Routes keep their number and order, so each of them is still the one that was registered there.
theorem Flow.exists_registered (flow : Flow ⟨(register size starts).routes, none⟩ trace state)
    {position : Nat} {route : Route} (found : state.routes[position]? = some route) :
    ∃ first, (register size starts).routes[position]? = some first ∧
      first.queue = { capacity := max size 1 } ∧
      Carries first route (receivedBy position trace) (due state.current (begun trace) position) := by
  have inside := (List.getElem?_eq_some_iff.mp found).1
  rw [flow.length_eq] at inside
  obtain ⟨first, here⟩ : ∃ first, (register size starts).routes[position]? = some first :=
    ⟨_, List.getElem?_eq_getElem inside⟩
  exact ⟨first, here, register_queue here, flow.carries position first route here found⟩

theorem Flow.backends_eq (flow : Flow ⟨(register size starts).routes, none⟩ trace state) :
    state.routes.map Route.backend = (register size starts).backends := by
  apply List.ext_getElem?
  intro position
  unfold backends
  rw [List.getElem?_map, List.getElem?_map]
  cases found : state.routes[position]? with
  | none =>
    rw [List.getElem?_eq_none_iff, flow.length_eq] at found
    rw [List.getElem?_eq_none_iff.mpr found]
  | some route =>
    obtain ⟨first, here, _, carries⟩ := flow.exists_registered found
    rw [here]
    exact congrArg some carries.backend_eq

theorem Flow.content (flow : Flow ⟨(register size starts).routes, none⟩ trace state)
    {position : Nat} {route : Route} (found : state.routes[position]? = some route)
    (listening : route.queue.listening = true) :
    receivedBy position trace ++ route.queue.items = due state.current (begun trace) position := by
  obtain ⟨first, _, queue, carries⟩ := flow.exists_registered found
  have content := carries.content listening
  rw [queue] at content
  exact content

theorem Flow.length_le (flow : Flow ⟨(register size starts).routes, none⟩ trace state)
    {position : Nat} {route : Route} (found : state.routes[position]? = some route) :
    route.queue.items.length ≤ max size 1 := by
  obtain ⟨first, _, queue, carries⟩ := flow.exists_registered found
  have bounded := carries.bounded
  rw [carries.capacity_eq, queue] at bounded
  exact bounded (Nat.zero_le _)

/-- The moment at which a backend goes away changes nothing for the others. -/
theorem Step.hungUp_departs {after : FanOut} {gone : Nat}
    (step : Step state (.hungUp gone) after) :
    Departed gone after ∧ after.without gone = state.without gone := by
  cases step with
  | @hungUp routes current _ route found listening =>
    have inside := (List.getElem?_eq_some_iff.mp found).1
    refine ⟨⟨_, List.getElem?_set_self inside, rfl⟩, ?_⟩
    simp only [FanOut.without, List.eraseIdx_set_eq]

/-- A backend that stays can take the oldest reading out of its queue at any time. -/
theorem exists_received {position : Nat} {route : Route} {reading : Reading} {rest : List Reading}
    (found : state.routes[position]? = some route) (listening : route.queue.listening = true)
    (items : route.queue.items = reading :: rest) :
    ∃ after, Step state (.received position reading) after ∧ after.current = state.current ∧
      after.routes =
        state.routes.set position { route with queue := { route.queue with items := rest } } :=
  ⟨_, .received found listening (Queue.take?_eq_some_iff.mpr ⟨items, rfl⟩), rfl, rfl⟩

/-- A delivery goes on unless it waits for room. -/
theorem exists_turn {delivery : Delivery} (current : state.current = some delivery) :
    (∃ event after, Step state event after ∧
      (event.IsOffer ∨ event = .answered delivery.accepted)) ∨
    ∃ full, state.routes[delivery.position]? = some full ∧ full.queue.Full := by
  obtain ⟨routes, _⟩ := state
  cases current
  rcases turn_cases routes delivery with arrived | ⟨route, found, full, -⟩ |
    ⟨event, _, _, offer, -, step, -, -⟩
  · exact .inl ⟨_, _, .answered arrived, .inr rfl⟩
  · exact .inr ⟨route, found, Queue.offer_eq_full_iff.mp full⟩
  · exact .inl ⟨event, _, step, .inl offer⟩

/-- Handing out readings to registered backends, whatever is received in between and whoever goes
away. Adding a backend ends as its start does, and one that fails to start is not among the routes.
Handing out a reading comes to just what a delivery does with nobody in between, and where no queue
is full it counts the backends that listen, each of which has the reading last in its queue. In every
run, in whatever order distributor and backends take their turns, the routes stay, their queues stay
within bounds, and each backend that stays has received or still has in its queue what is due to it.
It can always receive what is in its queue, and a delivery goes on unless it waits for room. The
earlier of two such backends is ahead by one reading at most, and every answer counts the queues
that took the reading. From the moment on at which a backend goes away the others run just as they
would without it. -/
theorem registered_runs_lossless
    (run : Runs ⟨(register size starts).routes, none⟩ trace state) :
    (∀ (distributor : Distributor) (backend : String) (started : Attempt Unit),
      (withBackend backend started).run.run distributor = (started,
        if started = .ok () then
          { distributor with
            routes := distributor.routes ++ [⟨backend, { capacity := distributor.queueSize }⟩] }
        else distributor)) ∧
    (register size starts).backends =
      ((starts.filter fun start => start.2 = .ok ()).map Prod.fst) ∧
    (∀ (distributor after : Distributor) (reading : Reading) (outcome : Distribution),
      distributor.distribute reading = (outcome, after) ↔
        Undisturbed distributor.routes { reading } outcome after.routes ∧
          after.queueSize = distributor.queueSize) ∧
    (∀ (distributor : Distributor) (reading : Reading),
      (∀ route ∈ distributor.routes, ¬ route.queue.Full) →
      distributor.distribute reading =
        (.delivered (distributor.routes.countP fun route => route.queue.listening),
          { distributor with routes := distributor.routes.map (Route.handed reading) })) ∧
    state.routes.map Route.backend = (register size starts).backends ∧
    (∀ delivery, state.current = some delivery →
      (begun trace).getLast? = some delivery.reading ∧
      ((∃ event after, Step state event after ∧
          (event.IsOffer ∨ event = .answered delivery.accepted)) ∨
        ∃ full, state.routes[delivery.position]? = some full ∧ full.queue.Full)) ∧
    (∀ (position : Nat) (route : Route), state.routes[position]? = some route →
      route.queue.items.length ≤ max size 1 ∧
      (route.queue.listening = true →
        receivedBy position trace ++ route.queue.items =
          due state.current (begun trace) position ∧
        ∀ reading rest, route.queue.items = reading :: rest →
          ∃ after, Step state (.received position reading) after ∧
            after.current = state.current ∧ after.routes = state.routes.set position
              { route with queue := { route.queue with items := rest } })) ∧
    (∀ (first second : Nat) (ahead behind : Route), first < second →
      state.routes[first]? = some ahead → state.routes[second]? = some behind →
      ahead.queue.listening = true → behind.queue.listening = true →
      receivedBy second trace ++ behind.queue.items <+: receivedBy first trace ++ ahead.queue.items ∧
      (receivedBy first trace ++ ahead.queue.items).length ≤
        (receivedBy second trace ++ behind.queue.items).length + 1) ∧
    Throughout (fun before event => ∀ count, event = .answered count →
      ∃ reading accepting, EndsInOffers before reading accepting ∧ count = accepting.length)
      trace ∧
    (∀ gone after, Step state (.hungUp gone) after →
      Departed gone after ∧ after.without gone = state.without gone) ∧
    (∀ gone, Departed gone state →
      (∀ later after, Runs state later after →
        Runs (state.without gone) (traceWithout gone later) (after.without gone)) ∧
      (∀ seen reduced, Runs (state.without gone) seen reduced →
        ∃ later after, Runs state later after ∧ traceWithout gone later = seen ∧
          after.without gone = reduced)) := by
  have flow := run.flow rfl
  refine ⟨fun distributor backend started => withBackend_run backend started distributor,
    ?registered, fun _ _ _ _ => distribute_eq_iff, fun _ reading => distribute_of_room reading,
    flow.backends_eq, fun delivery current => ⟨flow.current_begun delivery current,
      exists_turn current⟩,
    fun _ _ found => ⟨flow.length_le found, fun listening => ⟨flow.content found listening,
      fun _ _ => exists_received found listening⟩⟩,
    ?ahead, run.answers rfl, fun _ _ step => step.hungUp_departs,
    fun _ departed => ⟨fun _ _ more => (more.reduce departed).2, fun _ _ more => more.extend departed⟩⟩
  case registered =>
    rw [register_eq]
    simp only [backends, List.map_map]
    rfl
  case ahead =>
    intro first second ahead behind order here there aheadListens behindListens
    rw [flow.content here aheadListens, flow.content there behindListens]
    exact due_prefix state.current (begun trace) (Nat.le_of_lt order)

/-- The second of two backends goes away while a reading is under way to it, and the first one
receives the reading. Handing out another reading then counts the first one only. -/
theorem registered_runs_departing :
    ∃ reading state,
      Runs ⟨(register 0 [("kept", .ok ()), ("broken", .error .crash), ("leaving", .ok ())]).routes,
        none⟩ [.began reading, .accepted 0, .hungUp 1, .passed 1, .answered 1, .received 0 reading]
        state ∧
      state.routes.map Route.backend = ["kept", "leaving"] ∧
      (∀ route, state.routes[0]? = some route → route.queue.listening = true →
        [reading] ++ route.queue.items = [reading]) ∧
      (Distributor.mk 1 state.routes).distribute reading =
        (.delivered 1, ⟨1, state.routes.map (Route.handed reading)⟩) := by
  let reading : Reading := { timestamp := .epoch, stationName := "garden" }
  have began : Runs ⟨(register 0 [("kept", .ok ()), ("broken", .error .crash),
      ("leaving", .ok ())]).routes, none⟩ [.began reading] _ := Runs.empty.next (.began reading)
  have accepted := began.next (.accepted rfl rfl rfl)
  have left : Runs _ [.began reading, .accepted 0, .hungUp 1] _ := accepted.next (.hungUp rfl rfl)
  have passed := left.next (.passed rfl rfl rfl)
  have answered := passed.next (.answered rfl)
  have run : Runs _ [.began reading, .accepted 0, .hungUp 1, .passed 1, .answered 1,
    .received 0 reading] _ := answered.next (.received rfl rfl rfl)
  obtain ⟨-, registered, -, handedOut, kept, -, content, -⟩ := registered_runs_lossless run
  exact ⟨reading, _, run, kept.trans registered,
    fun route found listening => ((content 0 route found).2 listening).1,
    handedOut ⟨1, _⟩ reading (by decide)⟩

end FanOut

end WeatherRelay
