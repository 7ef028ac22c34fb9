import WeatherRelay.Proofs.FanOut.System

/-! Where the readings are while they are handed out.

What a backend received and what is still in its queue are together all readings that were begun,
the last one of them only if its delivery has come past that backend. This holds of every backend
by itself, so that none is ever more than one reading behind another.
-/

set_option autoImplicit false

namespace WeatherRelay.FanOut

def Event.begun? : Event → Option Reading
  | .began reading => some reading
  | _ => none

/-- The readings whose delivery was begun. -/
def begun (trace : List Event) : List Reading := trace.filterMap Event.begun?

def Event.receivedBy? (backend : Nat) : Event → Option Reading
  | .received receiver reading => if receiver = backend then some reading else none
  | _ => none

def receivedBy (backend : Nat) (trace : List Event) : List Reading :=
  trace.filterMap (Event.receivedBy? backend)

/-- Of the readings that were begun those that have come past a backend. -/
def due (current : Option Delivery) (begun : List Reading) (backend : Nat) : List Reading :=
  match current with
  | none => begun
  | some delivery => if backend < delivery.position then begun else begun.dropLast

/-- A route still is the one it was at first. Its queue is within bounds if it was, and as long as
somebody listens nothing is lost, doubled or out of order. -/
structure Carries (first route : Route) (taken due : List Reading) : Prop where
  backend_eq : route.backend = first.backend
  capacity_eq : route.queue.capacity = first.queue.capacity
  bounded : first.queue.items.length ≤ first.queue.capacity →
    route.queue.items.length ≤ route.queue.capacity
  listening : route.queue.listening = true → first.queue.listening = true
  content : route.queue.listening = true →
    taken ++ route.queue.items = first.queue.items ++ due

structure Flow (start : FanOut) (trace : List Event) (state : FanOut) : Prop where
  length_eq : state.routes.length = start.routes.length
  position_le : ∀ delivery, state.current = some delivery →
    delivery.position ≤ state.routes.length
  current_begun : ∀ delivery, state.current = some delivery →
    (begun trace).getLast? = some delivery.reading
  carries : ∀ (backend : Nat) (first route : Route), start.routes[backend]? = some first →
    state.routes[backend]? = some route →
    Carries first route (receivedBy backend trace) (due state.current (begun trace) backend)

section Trace

variable {trace : List Event} {event : Event}

theorem begun_began (trace : List Event) (reading : Reading) :
    begun (trace ++ [.began reading]) = begun trace ++ [reading] := by
  simp [begun, Event.begun?]

theorem begun_concat (other : event.begun? = none) : begun (trace ++ [event]) = begun trace := by
  simp [begun, other]

theorem receivedBy_received (backend : Nat) (trace : List Event) (reading : Reading) :
    receivedBy backend (trace ++ [.received backend reading]) =
      receivedBy backend trace ++ [reading] := by
  simp [receivedBy, Event.receivedBy?]

theorem receivedBy_concat {backend : Nat} (other : event.receivedBy? backend = none) :
    receivedBy backend (trace ++ [event]) = receivedBy backend trace := by
  simp [receivedBy, other]

end Trace

section Due

variable {readings : List Reading} {delivery next : Delivery} {backend : Nat}

theorem due_began (readings : List Reading) (reading : Reading) (backend : Nat) :
    due (some { reading }) (readings ++ [reading]) backend = readings := by
  simp [due]

theorem due_moved (moved : next.position = delivery.position + 1)
    (other : backend ≠ delivery.position) :
    due (some next) readings backend = due (some delivery) readings backend := by
  have same : backend < next.position ↔ backend < delivery.position := by omega
  simp only [due, same]

theorem due_here (moved : next.position = delivery.position + 1)
    (last : readings.getLast? = some delivery.reading) :
    due (some next) readings delivery.position =
      due (some delivery) readings delivery.position ++ [delivery.reading] := by
  have whole : readings.dropLast ++ [delivery.reading] = readings :=
    List.dropLast_append_getLast? _ last
  simp [due, moved, whole]

theorem due_arrived (past : backend < delivery.position) :
    due (some delivery) readings backend = readings := if_pos past

/-- Of two backends the one with the lower position is ahead, by one reading at most. -/
theorem due_prefix (current : Option Delivery) (readings : List Reading) {first second : Nat}
    (order : first ≤ second) :
    due current readings second <+: due current readings first ∧
      (due current readings first).length ≤ (due current readings second).length + 1 := by
  cases current with
  | none => exact ⟨List.prefix_rfl, Nat.le_succ _⟩
  | some delivery =>
    unfold due
    dsimp only
    split
    case isTrue past =>
      rw [if_pos (Nat.lt_of_le_of_lt order past)]
      exact ⟨List.prefix_rfl, Nat.le_succ _⟩
    case isFalse =>
      split
      case isTrue =>
        rw [List.length_dropLast]
        exact ⟨List.dropLast_prefix _, by omega⟩
      case isFalse => exact ⟨List.prefix_rfl, Nat.le_succ _⟩

theorem due_prefix_begun (current : Option Delivery) (readings : List Reading) (backend : Nat) :
    due current readings backend <+: readings := by
  cases current with
  | none => exact List.prefix_rfl
  | some delivery =>
    unfold due
    dsimp only
    split
    · exact List.prefix_rfl
    · exact List.dropLast_prefix _

end Due

theorem getElem?_set_cases {α : Type} {items : List α} {position backend : Nat} {set item : α}
    (found : (items.set position set)[backend]? = some item) :
    (backend = position ∧ item = set) ∨
      (backend ≠ position ∧ items[backend]? = some item) := by
  rw [List.getElem?_set] at found
  split at found
  case isTrue here =>
    split at found
    case isTrue => exact .inl ⟨here.symm, (Option.some.inj found).symm⟩
    case isFalse => cases found
  case isFalse elsewhere => exact .inr ⟨Ne.symm elsewhere, found⟩

section Step

variable {fanOut after : FanOut} {event : Event}

theorem Step.receiver_listens {backend : Nat} {reading : Reading}
    (step : Step fanOut (.received backend reading) after) :
    ∃ route, after.routes[backend]? = some route ∧ route.queue.listening = true := by
  cases step with
  | received found listening received =>
    have inside := (List.getElem?_eq_some_iff.mp found).1
    refine ⟨_, List.getElem?_set_self inside, ?_⟩
    rw [(Queue.take?_eq_some_iff.mp received).2]
    exact listening

/-- Nobody but the backend itself ends its listening, and no step ends the feed of a queue. -/
theorem Step.route_inv (step : Step fanOut event after) {backend : Nat} {route : Route}
    (there : after.routes[backend]? = some route) :
    ∃ before, fanOut.routes[backend]? = some before ∧ route.queue.fed = before.queue.fed ∧
      (event ≠ .hungUp backend → route.queue.listening = before.queue.listening) ∧
      (event = .hungUp backend → route.queue.listening = false) := by
  cases step with
  | began => exact ⟨route, there, rfl, fun _ => rfl, nofun⟩
  | @accepted routes later delivery next other queue found taken turned =>
    rw [Delivery.turn_of_taken found taken] at turned
    cases turned
    rcases getElem?_set_cases there with ⟨rfl, rfl⟩ | ⟨_, same⟩
    · obtain ⟨_, _, rfl⟩ := Queue.offer_eq_taken_iff.mp taken
      exact ⟨other, found, rfl, fun _ => rfl, nofun⟩
    · exact ⟨route, same, rfl, fun _ => rfl, nofun⟩
  | @passed routes later delivery next other found refused turned =>
    rw [Delivery.turn_of_refused found refused] at turned
    cases turned
    exact ⟨route, there, rfl, fun _ => rfl, nofun⟩
  | answered => exact ⟨route, there, rfl, fun _ => rfl, nofun⟩
  | @received routes current receiver other reading queue found listening received =>
    rcases getElem?_set_cases there with ⟨rfl, rfl⟩ | ⟨_, same⟩
    · rw [(Queue.take?_eq_some_iff.mp received).2]
      exact ⟨other, found, rfl, fun _ => rfl, nofun⟩
    · exact ⟨route, same, rfl, fun _ => rfl, nofun⟩
  | @hungUp routes current leaver other found listening =>
    rcases getElem?_set_cases there with ⟨rfl, rfl⟩ | ⟨elsewhere, same⟩
    · exact ⟨other, found, rfl, fun stays => absurd rfl stays, fun _ => rfl⟩
    · refine ⟨route, same, rfl, fun _ => rfl, fun here => ?_⟩
      cases here
      exact absurd rfl elsewhere

end Step

namespace Carries

variable {first route : Route} {taken due : List Reading}

theorem enqueue {queue : Queue Reading} {reading : Reading}
    (carries : Carries first route taken due)
    (accepted : route.queue.offer reading = .taken queue) :
    Carries first { route with queue } taken (due ++ [reading]) := by
  obtain ⟨listening, room, rfl⟩ := Queue.offer_eq_taken_iff.mp accepted
  refine ⟨carries.backend_eq, carries.capacity_eq, fun _ => ?_, carries.listening, fun _ => ?_⟩
  · rw [List.length_append]
    exact room
  · rw [← List.append_assoc, carries.content listening, List.append_assoc]

theorem dequeue {queue : Queue Reading} {reading : Reading}
    (carries : Carries first route taken due)
    (received : route.queue.take? = some (reading, queue)) :
    Carries first { route with queue } (taken ++ [reading]) due := by
  obtain ⟨items, same⟩ := Queue.take?_eq_some_iff.mp received
  rw [same]
  refine ⟨carries.backend_eq, carries.capacity_eq, fun within => ?_, carries.listening,
    fun listening => ?_⟩
  · have bounded := carries.bounded within
    rw [items] at bounded
    exact Nat.le_of_succ_le bounded
  · have content := carries.content listening
    rw [items] at content
    rw [List.append_assoc]
    exact content

theorem hangUp (carries : Carries first route taken due) (later : List Reading) :
    Carries first { route with queue := route.queue.hangUp } taken later :=
  ⟨carries.backend_eq, carries.capacity_eq, fun _ => Nat.zero_le _,
    fun silent => absurd silent Bool.false_ne_true, fun silent => absurd silent Bool.false_ne_true⟩

-- Of a backend that is gone nothing is claimed any more, whatever passes it.
theorem pass (carries : Carries first route taken due) (gone : route.queue.listening = false)
    (later : List Reading) : Carries first route taken later :=
  ⟨carries.backend_eq, carries.capacity_eq, carries.bounded, carries.listening,
    fun listening => absurd (gone.symm.trans listening) Bool.false_ne_true⟩

end Carries

namespace Flow

variable {start state after : FanOut} {trace : List Event}

theorem idle (start : FanOut) (nothing : start.current = none) : Flow start [] start where
  length_eq := rfl
  position_le delivery current := by rw [nothing] at current; cases current
  current_begun delivery current := by rw [nothing] at current; cases current
  carries backend first route here there := by
    cases here.symm.trans there
    refine ⟨rfl, rfl, id, id, fun _ => ?_⟩
    simp [receivedBy, due, nothing, begun]

-- Each event moves one reading by one place: into the trace, into a queue, or out of it. What is
-- due to a backend changes only where the delivery is at it.
theorem step {event : Event} (flow : Flow start trace state) (step : Step state event after) :
    Flow start (trace ++ [event]) after := by
  cases step with
  | @began routes reading =>
    refine ⟨flow.length_eq, ?_, ?_, fun backend first route here there => ?_⟩
    · rintro delivery ⟨⟩
      exact Nat.zero_le _
    · rintro delivery ⟨⟩
      rw [begun_began, List.getLast?_concat]
    · rw [receivedBy_concat rfl, begun_began, due_began]
      exact flow.carries backend first route here there
  | @accepted routes later delivery next route queue found taken turned =>
    rw [Delivery.turn_of_taken found taken] at turned
    cases turned
    have inside := (List.getElem?_eq_some_iff.mp found).1
    have last : (begun trace).getLast? = some delivery.reading := flow.current_begun delivery rfl
    refine ⟨by simpa using flow.length_eq, ?_, ?_, fun backend first other here there => ?_⟩
    · rintro delivery ⟨⟩
      rw [List.length_set]
      exact inside
    · rintro delivery ⟨⟩
      rw [begun_concat rfl]
      exact last
    · rw [receivedBy_concat rfl, begun_concat rfl]
      rcases getElem?_set_cases there with ⟨rfl, rfl⟩ | ⟨elsewhere, same⟩
      · rw [due_here rfl last]
        exact (flow.carries _ first route here found).enqueue taken
      · rw [due_moved rfl elsewhere]
        exact flow.carries backend first other here same
  | @passed routes later delivery next route found refused turned =>
    rw [Delivery.turn_of_refused found refused] at turned
    cases turned
    have inside := (List.getElem?_eq_some_iff.mp found).1
    have last : (begun trace).getLast? = some delivery.reading := flow.current_begun delivery rfl
    refine ⟨flow.length_eq, ?_, ?_, fun backend first other here there => ?_⟩
    · rintro delivery ⟨⟩
      exact inside
    · rintro delivery ⟨⟩
      rw [begun_concat rfl]
      exact last
    · rw [receivedBy_concat rfl, begun_concat rfl]
      by_cases elsewhere : backend = delivery.position
      · subst elsewhere
        cases found.symm.trans there
        exact (flow.carries _ first route here found).pass (Queue.offer_eq_refused_iff.mp refused) _
      · rw [due_moved rfl elsewhere]
        exact flow.carries backend first other here there
  | @answered routes delivery arrived =>
    refine ⟨flow.length_eq, ?_, ?_, fun backend first route here there => ?_⟩
    · rintro delivery ⟨⟩
    · rintro delivery ⟨⟩
    · -- Every backend is behind a delivery that has arrived.
      have inside := (List.getElem?_eq_some_iff.mp there).1
      have past := Nat.lt_of_lt_of_le inside (Delivery.turn_eq_arrived_iff.mp arrived)
      have carries := flow.carries backend first route here there
      rw [due_arrived past] at carries
      rw [receivedBy_concat rfl, begun_concat rfl]
      exact carries
  | @received routes current receiver route reading queue found listening received =>
    refine ⟨by simpa using flow.length_eq, ?_, ?_, fun backend first other here there => ?_⟩
    · intro delivery current
      rw [List.length_set]
      exact flow.position_le delivery current
    · intro delivery current
      rw [begun_concat rfl]
      exact flow.current_begun delivery current
    · rw [begun_concat rfl]
      rcases getElem?_set_cases there with ⟨rfl, rfl⟩ | ⟨elsewhere, same⟩
      · rw [receivedBy_received]
        exact (flow.carries _ first route here found).dequeue received
      · have away : Event.receivedBy? backend (.received receiver reading) = none :=
          if_neg (Ne.symm elsewhere)
        rw [receivedBy_concat away]
        exact flow.carries backend first other here same
  | @hungUp routes current leaver route found listening =>
    refine ⟨by simpa using flow.length_eq, ?_, ?_, fun backend first other here there => ?_⟩
    · intro delivery current
      rw [List.length_set]
      exact flow.position_le delivery current
    · intro delivery current
      rw [begun_concat rfl]
      exact flow.current_begun delivery current
    · rw [receivedBy_concat rfl, begun_concat rfl]
      rcases getElem?_set_cases there with ⟨rfl, rfl⟩ | ⟨elsewhere, same⟩
      · exact (flow.carries _ first route here found).hangUp _
      · exact flow.carries backend first other here same

theorem close {routes : List Route}
    {current : Option Delivery} {distributor : Distributor}
    (flow : Flow start trace ⟨routes, current⟩) (same : distributor.routes = routes) :
    Flow start trace ⟨distributor.close.routes, current⟩ := by
  subst same
  refine ⟨by simpa [Distributor.close] using flow.length_eq, ?_, flow.current_begun, ?_⟩
  · intro delivery under
    simpa [Distributor.close] using flow.position_le delivery under
  · intro backend first route here there
    obtain ⟨before, found, rfl⟩ := Option.map_eq_some_iff.mp ((List.getElem?_map ..).symm.trans there)
    have carries := flow.carries backend first before here found
    exact ⟨carries.backend_eq, carries.capacity_eq, carries.bounded, carries.listening,
      carries.content⟩

end Flow

theorem Runs.flow {start state : FanOut} {trace : List Event} (nothing : start.current = none)
    (run : Runs start trace state) : Flow start trace state := by
  induction run with
  | empty => exact .idle start nothing
  | next _ step ih => exact ih.step step

end WeatherRelay.FanOut
