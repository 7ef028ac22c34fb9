import WeatherRelay.Distributor
import WeatherRelay.Proofs.History

/-! A distributor at work among its backends.

Between two turns of a delivery any backend may receive from its queue or go away, in whatever
order; a delivery that waits for room has no turn until there is some. One reading is delivered
after the other.
-/

set_option autoImplicit false

namespace WeatherRelay

/-- Routes, and the reading that is on its way through them. -/
structure FanOut where
  routes : List Route
  current : Option Delivery := none
  deriving DecidableEq

namespace FanOut

/-- What is seen of a step. Backends go by their position among the routes. -/
inductive Event where
  | began (reading : Reading)
  | accepted (backend : Nat)
  | passed (backend : Nat)
  | answered (count : Nat)
  | received (backend : Nat) (reading : Reading)
  | hungUp (backend : Nat)
  deriving DecidableEq

/-- A reading is offered to a backend. -/
def Event.IsOffer (event : Event) : Prop :=
  ∃ backend, event = .accepted backend ∨ event = .passed backend

inductive Step : FanOut → Event → FanOut → Prop where
  | began {routes : List Route} (reading : Reading) :
      Step ⟨routes, none⟩ (.began reading) ⟨routes, some { reading }⟩
  | accepted {routes later : List Route} {delivery next : Delivery} {route : Route}
      {queue : Queue Reading} :
      routes[delivery.position]? = some route →
      route.queue.offer delivery.reading = .taken queue →
      delivery.turn routes = .moved later next →
      Step ⟨routes, some delivery⟩ (.accepted delivery.position) ⟨later, some next⟩
  | passed {routes later : List Route} {delivery next : Delivery} {route : Route} :
      routes[delivery.position]? = some route →
      route.queue.offer delivery.reading = .refused →
      delivery.turn routes = .moved later next →
      Step ⟨routes, some delivery⟩ (.passed delivery.position) ⟨later, some next⟩
  | answered {routes : List Route} {delivery : Delivery} :
      delivery.turn routes = .arrived →
      Step ⟨routes, some delivery⟩ (.answered delivery.accepted) ⟨routes, none⟩
  | received {routes : List Route} {current : Option Delivery} {backend : Nat} {route : Route}
      {reading : Reading} {queue : Queue Reading} :
      routes[backend]? = some route → route.queue.listening = true →
      route.queue.take? = some (reading, queue) →
      Step ⟨routes, current⟩ (.received backend reading)
        ⟨routes.set backend { route with queue }, current⟩
  | hungUp {routes : List Route} {current : Option Delivery} {backend : Nat} {route : Route} :
      routes[backend]? = some route → route.queue.listening = true →
      Step ⟨routes, current⟩ (.hungUp backend)
        ⟨routes.set backend { route with queue := route.queue.hangUp }, current⟩

/-- Steps one after the other, with what is seen of them. -/
inductive Runs (start : FanOut) : List Event → FanOut → Prop where
  | empty : Runs start [] start
  | next {trace : List Event} {state after : FanOut} {event : Event} :
      Runs start trace state → Step state event after → Runs start (trace ++ [event]) after

theorem Runs.trans {start middle last : FanOut} {earlier later : List Event}
    (first : Runs start earlier middle) (second : Runs middle later last) :
    Runs start (earlier ++ later) last := by
  induction second with
  | empty => simpa using first
  | next _ step ih =>
    rw [← List.append_assoc]
    exact ih.next step

theorem Runs.concat_inv {start last : FanOut} {trace : List Event} {event : Event}
    (run : Runs start (trace ++ [event]) last) :
    ∃ state, Runs start trace state ∧ Step state event last := by
  generalize whole : trace ++ [event] = all at run
  cases run with
  | empty => simp at whole
  | next run step =>
    obtain ⟨rfl, same⟩ := List.append_inj' whole rfl
    cases same
    exact ⟨_, run, step⟩

end FanOut

namespace Queue

variable {α : Type} {queue after : Queue α} {item : α}

theorem offer_eq_taken_iff :
    queue.offer item = .taken after ↔ queue.listening = true ∧
      queue.items.length < queue.capacity ∧ after = { queue with items := queue.items ++ [item] } := by
  unfold offer
  cases queue.listening with
  | false => simp
  | true =>
    by_cases room : queue.capacity ≤ queue.items.length
    · simp [room, Nat.not_lt_of_le room]
    · simp [room, Nat.lt_of_not_le room, eq_comm]

theorem offer_eq_refused_iff : queue.offer item = .refused ↔ queue.listening = false := by
  unfold offer
  cases queue.listening with
  | false => simp
  | true => by_cases room : queue.capacity ≤ queue.items.length <;> simp [room]

theorem take?_eq_some_iff :
    queue.take? = some (item, after) ↔
      queue.items = item :: after.items ∧ after = { queue with items := after.items } := by
  unfold take?
  cases queue.items with
  | nil => simp
  | cons first rest =>
    simp only [Option.some.injEq, Prod.mk.injEq, List.cons.injEq]
    constructor
    · rintro ⟨rfl, rfl⟩
      exact ⟨⟨rfl, rfl⟩, rfl⟩
    · rintro ⟨⟨rfl, rfl⟩, same⟩
      exact ⟨rfl, same.symm⟩

end Queue

namespace Delivery

variable {routes later : List Route} {delivery next : Delivery} {route : Route}

theorem turn_eq_arrived_iff :
    delivery.turn routes = .arrived ↔ routes.length ≤ delivery.position := by
  unfold turn
  cases found : routes[delivery.position]? with
  | none => simpa using found
  | some route =>
    have inside := (List.getElem?_eq_some_iff.mp found).1
    simp only [Nat.not_le_of_lt inside, iff_false]
    cases route.queue.offer delivery.reading <;> simp

theorem turn_of_taken {queue : Queue Reading} (found : routes[delivery.position]? = some route)
    (taken : route.queue.offer delivery.reading = .taken queue) :
    delivery.turn routes = .moved (routes.set delivery.position { route with queue })
      { delivery with position := delivery.position + 1, accepted := delivery.accepted + 1 } := by
  simp only [turn, found, taken]

theorem turn_of_refused (found : routes[delivery.position]? = some route)
    (refused : route.queue.offer delivery.reading = .refused) :
    delivery.turn routes = .moved routes { delivery with position := delivery.position + 1 } := by
  simp only [turn, found, refused]

end Delivery

namespace FanOut

section Step

variable {fanOut after : FanOut} {event : Event}

theorem Step.began_inv {reading : Reading} (step : Step fanOut (.began reading) after) :
    fanOut.current = none ∧ after = ⟨fanOut.routes, some { reading }⟩ := by
  cases step
  exact ⟨rfl, rfl⟩

/-- A delivery comes past a backend, which takes the reading or does not listen. -/
theorem Step.offered_inv {backend : Nat}
    (step : Step fanOut event after) (offered : event = .accepted backend ∨ event = .passed backend) :
    ∃ delivery next, fanOut.current = some delivery ∧ delivery.position = backend ∧
      after.current = some next ∧ next.position = delivery.position + 1 ∧
      after.routes.length = fanOut.routes.length := by
  cases step with
  | accepted found taken turned =>
    rw [Delivery.turn_of_taken found taken] at turned
    cases turned
    exact ⟨_, _, rfl, by simpa using offered, rfl, rfl, List.length_set⟩
  | passed found refused turned =>
    rw [Delivery.turn_of_refused found refused] at turned
    cases turned
    exact ⟨_, _, rfl, by simpa using offered, rfl, rfl, rfl⟩
  | began | answered | received | hungUp => simp at offered

theorem Step.answered_inv {count : Nat} (step : Step fanOut (.answered count) after) :
    ∃ delivery, fanOut.current = some delivery ∧ fanOut.routes.length ≤ delivery.position ∧
      after = ⟨fanOut.routes, none⟩ := by
  cases step with
  | answered arrived => exact ⟨_, rfl, Delivery.turn_eq_arrived_iff.mp arrived, rfl⟩

/-- What a backend does is nothing to a delivery. -/
theorem Step.received_inv {backend : Nat} {reading : Reading}
    (step : Step fanOut (.received backend reading) after) :
    after.current = fanOut.current ∧ after.routes.length = fanOut.routes.length := by
  cases step
  exact ⟨rfl, List.length_set⟩

theorem Step.hungUp_inv {backend : Nat} (step : Step fanOut (.hungUp backend) after) :
    after.current = fanOut.current ∧ after.routes.length = fanOut.routes.length := by
  cases step
  exact ⟨rfl, List.length_set⟩

end Step

/-- The rest of a delivery that nobody interrupts: offers up to its answer, or up to a full queue. -/
inductive Undisturbed (routes : List Route) (delivery : Delivery) :
    Distribution → List Route → Prop where
  | delivered {offers : List Event} {count : Nat} {later : List Route} :
      (∀ event ∈ offers, event.IsOffer) →
      Runs ⟨routes, some delivery⟩ (offers ++ [.answered count]) ⟨later, none⟩ →
      Undisturbed routes delivery (.delivered count) later
  | blocked {offers : List Event} {waiting : Delivery} {later : List Route} :
      (∀ event ∈ offers, event.IsOffer) →
      Runs ⟨routes, some delivery⟩ offers ⟨later, some waiting⟩ →
      waiting.turn later = .waits →
      Undisturbed routes delivery .blocked later

theorem Undisturbed.after_offer {routes later last : List Route} {delivery next : Delivery}
    {event : Event} {outcome : Distribution} (offer : event.IsOffer)
    (step : Step ⟨routes, some delivery⟩ event ⟨later, some next⟩)
    (rest : Undisturbed later next outcome last) : Undisturbed routes delivery outcome last := by
  have first : Runs ⟨routes, some delivery⟩ [event] ⟨later, some next⟩ := Runs.empty.next step
  cases rest with
  | delivered offers run =>
    exact .delivered (List.forall_mem_cons.mpr ⟨offer, offers⟩) (first.trans run)
  | blocked offers run waits =>
    exact .blocked (List.forall_mem_cons.mpr ⟨offer, offers⟩) (first.trans run) waits

/-- A delivery has come past all routes, or waits at a full queue, or is offered to the next route. -/
theorem turn_cases (routes : List Route) (delivery : Delivery) :
    delivery.turn routes = .arrived ∨
    (∃ route, routes[delivery.position]? = some route ∧
      route.queue.offer delivery.reading = .full ∧ delivery.turn routes = .waits) ∨
    ∃ event later next, event.IsOffer ∧ delivery.turn routes = .moved later next ∧
      Step ⟨routes, some delivery⟩ event ⟨later, some next⟩ ∧
      later.length = routes.length ∧ next.position = delivery.position + 1 := by
  cases found : routes[delivery.position]? with
  | none => exact .inl (by simp only [Delivery.turn, found])
  | some route =>
    cases offered : route.queue.offer delivery.reading with
    | full => exact .inr (.inl ⟨route, rfl, offered, by simp only [Delivery.turn, found, offered]⟩)
    | refused =>
      have turned := Delivery.turn_of_refused found offered
      exact .inr (.inr ⟨_, _, _, ⟨_, .inr rfl⟩, turned, .passed found offered turned, rfl, rfl⟩)
    | taken queue =>
      have turned := Delivery.turn_of_taken found offered
      exact .inr (.inr ⟨_, _, _, ⟨_, .inl rfl⟩, turned, .accepted found offered turned,
        List.length_set, rfl⟩)

-- Every turn moves a delivery by one position, so the bound on turns is never what ends it.
theorem proceed_undisturbed (turns : Nat) (routes : List Route) (delivery : Delivery)
    (enough : routes.length < delivery.position + turns) :
    Undisturbed routes delivery (delivery.proceed turns routes).1
      (delivery.proceed turns routes).2 := by
  induction turns generalizing routes delivery with
  | zero =>
    have arrived := Delivery.turn_eq_arrived_iff.mpr (Nat.le_of_lt enough)
    exact .delivered (List.forall_mem_nil _) (Runs.empty.next (.answered arrived))
  | succ turns ih =>
    rcases turn_cases routes delivery with arrived | ⟨_, _, _, waits⟩ |
      ⟨event, later, next, offer, turned, step, length, position⟩
    · simp only [Delivery.proceed, arrived]
      exact .delivered (List.forall_mem_nil _) (Runs.empty.next (.answered arrived))
    · simp only [Delivery.proceed, waits]
      exact .blocked (List.forall_mem_nil _) .empty waits
    · simp only [Delivery.proceed, turned]
      exact .after_offer offer step (ih later next (by omega))

/-- An offer is one turn of the delivery, which has not come past all routes before it. -/
theorem Step.offer_turn {routes : List Route} {delivery : Delivery} {event : Event} {after : FanOut}
    (step : Step ⟨routes, some delivery⟩ event after) (offer : event.IsOffer) :
    ∃ later next, after = ⟨later, some next⟩ ∧ delivery.turn routes = .moved later next ∧
      next.position = delivery.position + 1 ∧ later.length = routes.length ∧
      delivery.position < routes.length := by
  obtain ⟨backend, offered⟩ := offer
  obtain ⟨_, next, ⟨⟩, -, current, position, length⟩ := step.offered_inv offered
  cases step with
  | accepted found _ turned | passed found _ turned =>
    cases current
    exact ⟨_, _, rfl, turned, position, length, (List.getElem?_eq_some_iff.mp found).1⟩
  | answered | received | hungUp => simp at offered

theorem Runs.offer_turns {routes : List Route} {delivery : Delivery} {offers : List Event}
    {state : FanOut} (run : Runs ⟨routes, some delivery⟩ offers state)
    (only : ∀ event ∈ offers, event.IsOffer) (inside : delivery.position ≤ routes.length) :
    ∃ later next, state = ⟨later, some next⟩ ∧ later.length = routes.length ∧
      next.position = delivery.position + offers.length ∧ next.position ≤ routes.length ∧
      ∀ turns, delivery.proceed (turns + offers.length) routes = next.proceed turns later := by
  induction run with
  | empty => exact ⟨routes, delivery, rfl, rfl, rfl, inside, fun _ => rfl⟩
  | @next earlier middle last event _ step ih =>
    obtain ⟨before, offer⟩ := List.forall_mem_append.mp only
    obtain ⟨later, next, rfl, length, position, -, turns⟩ := ih before
    obtain ⟨latest, last, rfl, turned, moved, same, below⟩ :=
      step.offer_turn (offer _ (List.mem_singleton.mpr rfl))
    refine ⟨latest, last, rfl, same.trans length, ?_, by omega, fun remaining => ?_⟩
    · rw [moved, position, List.length_append, List.length_singleton]
      omega
    · rw [List.length_append, List.length_singleton, Nat.add_comm earlier.length, ← Nat.add_assoc,
        turns]
      simp only [Delivery.proceed, turned]

theorem Undisturbed.proceed_eq {routes later : List Route} {delivery : Delivery}
    {outcome : Distribution} (undisturbed : Undisturbed routes delivery outcome later) {turns : Nat}
    (inside : delivery.position ≤ routes.length)
    (enough : routes.length < delivery.position + turns) :
    delivery.proceed turns routes = (outcome, later) := by
  -- After the offers there is still a turn left, for the answer or the full queue.
  have enough_left {length : Nat} (below : delivery.position + length ≤ routes.length) :
      ∃ left, turns = left + 1 + length := ⟨turns - length - 1, by omega⟩
  cases undisturbed with
  | @delivered offers count _ only run =>
    obtain ⟨middle, run, step⟩ := run.concat_inv
    obtain ⟨_, next, rfl, -, position, below, same⟩ := run.offer_turns only inside
    obtain ⟨left, rfl⟩ := enough_left (position ▸ below)
    rw [same]
    cases step with
    | answered arrived => simp only [Delivery.proceed, arrived]
  | @blocked offers waiting _ only run waits =>
    obtain ⟨_, next, ⟨⟩, -, position, below, same⟩ := run.offer_turns only inside
    obtain ⟨left, rfl⟩ := enough_left (position ▸ below)
    rw [same]
    simp only [Delivery.proceed, waits]

/-- Handing out a reading comes to just what its delivery does with nobody in between. -/
theorem distribute_eq_iff {distributor after : Distributor} {reading : Reading}
    {outcome : Distribution} :
    distributor.distribute reading = (outcome, after) ↔
      Undisturbed distributor.routes { reading } outcome after.routes ∧
        after.queueSize = distributor.queueSize := by
  have enough : distributor.routes.length < 0 + (distributor.routes.length + 1) := by omega
  constructor
  · intro same
    have undisturbed := proceed_undisturbed _ distributor.routes { reading } enough
    simp only [Distributor.distribute, Prod.mk.injEq] at same
    obtain ⟨rfl, rfl⟩ := same
    exact ⟨undisturbed, rfl⟩
  · rintro ⟨undisturbed, size⟩
    have same := undisturbed.proceed_eq (Nat.zero_le _) enough
    simp only [Distributor.distribute, same, ← size]

end FanOut

end WeatherRelay
