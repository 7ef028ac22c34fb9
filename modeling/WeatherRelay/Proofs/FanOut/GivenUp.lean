import WeatherRelay.Proofs.FanOut.Answers
import WeatherRelay.Proofs.FanOut.Flow

/-! Deliveries that are given up while they wait.

A sender that gives up leaves nothing behind in the queue that it waited for. So the backends before
that queue have the reading, the others never get it, and whatever is distributed afterwards starts
from the queues as they were left.
-/

set_option autoImplicit false

namespace WeatherRelay

namespace Queue

variable {α : Type}

/-- Somebody receives, but there is no room. -/
def Full (queue : Queue α) : Prop :=
  queue.listening = true ∧ queue.capacity ≤ queue.items.length

instance (queue : Queue α) : Decidable queue.Full := inferInstanceAs (Decidable (_ ∧ _))

theorem offer_eq_full_iff {queue : Queue α} {item : α} : queue.offer item = .full ↔ queue.Full := by
  unfold offer Full
  cases queue.listening with
  | false => simp
  | true => by_cases room : queue.capacity ≤ queue.items.length <;> simp [room]

end Queue

/-- A route that a reading has come past: whoever listens there has it last in the queue. -/
def Route.handed (reading : Reading) (route : Route) : Route :=
  if route.queue.listening then
    { route with queue := { route.queue with items := route.queue.items ++ [reading] } }
  else route

namespace Delivery

theorem turn_eq_waits_iff {routes : List Route} {delivery : Delivery} :
    delivery.turn routes = .waits ↔
      ∃ route, routes[delivery.position]? = some route ∧ route.queue.Full := by
  unfold turn
  cases found : routes[delivery.position]? with
  | none => simp
  | some route =>
    have full := @Queue.offer_eq_full_iff _ route.queue delivery.reading
    simp only [Option.some.injEq, exists_eq_left', ← full]
    cases route.queue.offer delivery.reading <;> simp

/-- Where there is room, one turn takes a reading past one route. -/
theorem turn_of_not_full (reading : Reading) (past rest : List Route) (route : Route)
    (accepted : Nat) (room : ¬ route.queue.Full) :
    ({ reading, position := past.length, accepted } : Delivery).turn (past ++ route :: rest) =
      .moved (past ++ route.handed reading :: rest) {
        reading, position := past.length + 1
        accepted := accepted + if route.queue.listening then 1 else 0 } := by
  have found : (past ++ route :: rest)[past.length]? = some route := by simp
  cases offered : route.queue.offer reading with
  | full => exact absurd (Queue.offer_eq_full_iff.mp offered) room
  | refused =>
    rw [turn_of_refused found offered]
    have silent := Queue.offer_eq_refused_iff.mp offered
    simp [Route.handed, silent]
  | taken queue =>
    rw [turn_of_taken found offered]
    obtain ⟨listening, -, rfl⟩ := Queue.offer_eq_taken_iff.mp offered
    simp [Route.handed, listening]

/-- Turn by turn a reading gets past all the routes before the first full one. -/
theorem proceed_past (reading : Reading) (past reached rest : List Route) (accepted turns : Nat)
    (room : ∀ route ∈ reached, ¬ route.queue.Full) :
    ({ reading, position := past.length, accepted } : Delivery).proceed (turns + reached.length)
        (past ++ (reached ++ rest)) =
      ({ reading, position := past.length + reached.length
         accepted := accepted + reached.countP fun route => route.queue.listening } :
        Delivery).proceed turns (past ++ (reached.map (Route.handed reading) ++ rest)) := by
  induction reached generalizing past accepted with
  | nil => rfl
  | cons route reached ih =>
    obtain ⟨here, later⟩ := List.forall_mem_cons.mp room
    have turned := turn_of_not_full reading past (reached ++ rest) route accepted here
    have further := ih (past ++ [route.handed reading])
      (accepted + if route.queue.listening then 1 else 0) later
    simp only [List.length_append, List.length_singleton, List.append_assoc,
      List.singleton_append] at further
    rw [List.length_cons, ← Nat.add_assoc, List.cons_append]
    simp only [proceed, turned, further, List.map_cons, List.cons_append, List.countP_cons]
    congr 2 <;> omega

end Delivery

namespace Distributor

variable {distributor : Distributor} {reached rest : List Route} {full : Route}

theorem distribute_past (reading : Reading) (split : distributor.routes = reached ++ rest)
    (room : ∀ route ∈ reached, ¬ route.queue.Full) :
    distributor.distribute reading =
      let delivery : Delivery := {
        reading, position := reached.length
        accepted := reached.countP fun route => route.queue.listening }
      let (outcome, routes) :=
        delivery.proceed (rest.length + 1) (reached.map (Route.handed reading) ++ rest)
      (outcome, { distributor with routes }) := by
  have passed := Delivery.proceed_past reading [] reached rest 0 (rest.length + 1) room
  have turns : distributor.routes.length + 1 = rest.length + 1 + reached.length := by
    rw [split, List.length_append]
    omega
  simp only [List.length_nil, List.nil_append, Nat.zero_add] at passed
  unfold distribute
  rw [turns, split, passed]

/-- Where no queue is full every backend that listens gets the reading. -/
theorem distribute_of_room (reading : Reading)
    (room : ∀ route ∈ distributor.routes, ¬ route.queue.Full) :
    distributor.distribute reading =
      (.delivered (distributor.routes.countP fun route => route.queue.listening),
        { distributor with routes := distributor.routes.map (Route.handed reading) }) := by
  rw [distribute_past reading (List.append_nil _).symm room]
  have arrived : ({ reading, position := distributor.routes.length
                    accepted := distributor.routes.countP fun route => route.queue.listening } :
      Delivery).turn (distributor.routes.map (Route.handed reading)) = .arrived :=
    Delivery.turn_eq_arrived_iff.mpr (by simp)
  simp only [Delivery.proceed, List.append_nil, arrived]

/-- Handing out a reading stops at the first full queue. The reading is then at the end of the
queues before it, and in no other one. -/
theorem distribute_of_full (reading : Reading) (split : distributor.routes = reached ++ full :: rest)
    (room : ∀ route ∈ reached, ¬ route.queue.Full) (wait : full.queue.Full) :
    distributor.distribute reading = (.blocked,
      { distributor with routes := reached.map (Route.handed reading) ++ full :: rest }) := by
  rw [distribute_past reading split room]
  have waits : ({ reading, position := reached.length
                  accepted := reached.countP fun route => route.queue.listening } : Delivery).turn
      (reached.map (Route.handed reading) ++ full :: rest) = .waits :=
    Delivery.turn_eq_waits_iff.mpr ⟨full, by simp, wait⟩
  simp only [Delivery.proceed, waits]

theorem exists_full_of_blocked {reading : Reading}
    (blocked : (distributor.distribute reading).1 = .blocked) :
    ∃ reached full rest, distributor.routes = reached ++ full :: rest ∧
      (∀ route ∈ reached, ¬ route.queue.Full) ∧ full.queue.Full := by
  cases found : distributor.routes.find? fun route => decide route.queue.Full with
  | none =>
    have room : ∀ route ∈ distributor.routes, ¬ route.queue.Full := by
      simpa using found
    rw [distribute_of_room reading room] at blocked
    cases blocked
  | some full =>
    obtain ⟨wait, reached, rest, split, room⟩ := List.find?_eq_some_iff_append.mp found
    exact ⟨reached, full, rest, split, by simpa using room, by simpa using wait⟩

end Distributor

namespace FanOut

/-- The backends to which a reading was offered, in order. -/
def visited (trace : List Event) : List Nat :=
  trace.filterMap fun
    | .accepted backend | .passed backend => some backend
    | _ => none

/-- Routes that still are those of the start, whose backends took some readings while others became
due to them. A backend that was gone stays as it was. -/
structure Continues (start : List Route) (taken due : Nat → List Reading) (routes : List Route) :
    Prop where
  length_eq : routes.length = start.length
  carries : ∀ (backend : Nat) (first route : Route), start[backend]? = some first →
    routes[backend]? = some route → Carries first route (taken backend) (due backend)
  gone : ∀ (backend : Nat) (first : Route), start[backend]? = some first →
    first.queue.listening = false → routes[backend]? = some first

theorem Carries.trans {first middle last : Route} {taken due takenLater dueLater : List Reading}
    (earlier : Carries first middle taken due) (later : Carries middle last takenLater dueLater) :
    Carries first last (taken ++ takenLater) (due ++ dueLater) where
  backend_eq := later.backend_eq.trans earlier.backend_eq
  capacity_eq := later.capacity_eq.trans earlier.capacity_eq
  bounded within := by
    have bounded := earlier.bounded within
    have same := earlier.capacity_eq
    exact later.bounded bounded
  listening listens := earlier.listening (later.listening listens)
  content listens := by
    rw [List.append_assoc, later.content listens, ← List.append_assoc,
      earlier.content (later.listening listens), List.append_assoc]

theorem Continues.trans {start middle last : List Route}
    {taken due takenLater dueLater : Nat → List Reading}
    (earlier : Continues start taken due middle) (later : Continues middle takenLater dueLater last) :
    Continues start (fun backend => taken backend ++ takenLater backend)
      (fun backend => due backend ++ dueLater backend) last where
  length_eq := later.length_eq.trans earlier.length_eq
  carries backend first route here there := by
    have inside := (List.getElem?_eq_some_iff.mp here).1
    rw [← earlier.length_eq] at inside
    have between := List.getElem?_eq_getElem inside
    exact (earlier.carries backend first _ here between).trans
      (later.carries backend _ route between there)
  gone backend first here silent := later.gone backend first (earlier.gone backend first here silent)
    silent

section Runs

variable {start state after : FanOut} {trace : List Event} {event : Event}

-- A queue changes only while somebody listens at it.
theorem Step.gone (step : Step state event after) {backend : Nat} {route : Route}
    (found : state.routes[backend]? = some route) (silent : route.queue.listening = false) :
    after.routes[backend]? = some route := by
  -- Whoever listens is at another position.
  have elsewhere {routes : List Route} {position : Nat} {other changed : Route}
      (here : routes[position]? = some other) (listens : other.queue.listening = true)
      (there : routes[backend]? = some route) : (routes.set position changed)[backend]? = some route := by
    rw [List.getElem?_set_ne, there]
    rintro rfl
    cases here.symm.trans there
    exact absurd (silent.symm.trans listens) Bool.false_ne_true
  cases step with
  | began | answered => exact found
  | accepted here taken turned =>
    rw [Delivery.turn_of_taken here taken] at turned
    cases turned
    exact elsewhere here (Queue.offer_eq_taken_iff.mp taken).1 found
  | passed here refused turned =>
    rw [Delivery.turn_of_refused here refused] at turned
    cases turned
    exact found
  | received here listens | hungUp here listens => exact elsewhere here listens found

theorem Runs.gone (run : Runs start trace state) {backend : Nat} {route : Route}
    (found : start.routes[backend]? = some route) (silent : route.queue.listening = false) :
    state.routes[backend]? = some route := by
  induction run with
  | empty => exact found
  | next _ step ih => exact step.gone ih silent

theorem Runs.continues (nothing : start.current = none) (run : Runs start trace state) :
    Continues start.routes (fun backend => receivedBy backend trace)
      (fun backend => due state.current (begun trace) backend) state.routes where
  length_eq := (run.flow nothing).length_eq
  carries := (run.flow nothing).carries
  gone _ _ found silent := run.gone found silent

theorem visited_concat (trace : List Event) (event : Event) :
    visited (trace ++ [event]) = visited trace ++ visited [event] := List.filterMap_append

/-- Up to its answer a delivery visits one backend after the other, from the first one on. -/
theorem Runs.visits {routes : List Route} {reading : Reading} {during : List Event}
    (run : Runs ⟨routes, some { reading }⟩ during state) (inside : ∀ event ∈ during, event.Inside) :
    ∃ delivery, state.current = some delivery ∧ delivery.reading = reading ∧
      visited during = List.range delivery.position := by
  induction run with
  | empty => exact ⟨_, rfl, rfl, rfl⟩
  | @next earlier middle last event _ step ih =>
    obtain ⟨before, here⟩ := List.forall_mem_append.mp inside
    obtain ⟨delivery, current, same, visits⟩ := ih before
    rw [visited_concat, visits]
    cases step with
    | began => cases current
    | answered => exact absurd (List.mem_singleton.mpr rfl) fun member => here _ member
    | accepted found taken turned =>
      cases current
      rw [Delivery.turn_of_taken found taken] at turned
      cases turned
      exact ⟨_, rfl, same, List.range_succ.symm⟩
    | passed found refused turned =>
      cases current
      rw [Delivery.turn_of_refused found refused] at turned
      cases turned
      exact ⟨_, rfl, same, List.range_succ.symm⟩
    | received | hungUp => exact ⟨delivery, current, same, List.append_nil _⟩

end Runs

theorem begun_of_inside {during : List Event} (inside : ∀ event ∈ during, event.Inside) :
    begun during = [] := by
  refine List.filterMap_eq_nil_iff.mpr fun event member => ?_
  have here := inside event member
  cases event with
  | began => exact here.elim
  | _ => rfl

/-- A run up to a delivery that is given up. -/
structure Spell where
  trace : List Event
  delivery : Delivery

/-- Runs one after the other. All but the last one end with a delivery that is given up while it
waits, and nothing of it is left. -/
inductive Course : FanOut → List Spell → List Event → FanOut → Prop where
  | runs {start state : FanOut} {last : List Event} : Runs start last state →
      Course start [] last state
  | gaveUp {start state : FanOut} {trace last : List Event} {routes : List Route}
      {delivery : Delivery} {spells : List Spell} :
      Runs start trace ⟨routes, some delivery⟩ → delivery.turn routes = .waits →
      Course ⟨routes, none⟩ spells last state → Course start (⟨trace, delivery⟩ :: spells) last state

def Spell.due (spell : Spell) (backend : Nat) : List Reading :=
  FanOut.due (some spell.delivery) (begun spell.trace) backend

/-- What a backend received over a course. -/
def takenOver (spells : List Spell) (last : List Event) (backend : Nat) : List Reading :=
  spells.flatMap (fun spell => receivedBy backend spell.trace) ++ receivedBy backend last

/-- What came past a backend over a course. -/
def dueOver (spells : List Spell) (last : List Event) (current : Option Delivery) (backend : Nat) :
    List Reading :=
  spells.flatMap (fun spell => spell.due backend) ++ due current (begun last) backend

theorem Course.continues {start state : FanOut} {spells : List Spell} {last : List Event}
    (course : Course start spells last state) (nothing : start.current = none) :
    Continues start.routes (takenOver spells last) (dueOver spells last state.current)
      state.routes := by
  induction course with
  | runs run => exact run.continues nothing
  | gaveUp run _ _ ih =>
    have whole := (run.continues nothing).trans (ih rfl)
    unfold takenOver dueOver
    simpa only [takenOver, dueOver, List.flatMap_cons, List.append_assoc, Spell.due] using whole

/-- A reading whose distribution is given up has come past the first of the backends, up to the one
whose queue is full. Each of them was offered it once, and it is at the end of what was queued for
those that listened; for the full queue and all those behind it there is nothing of it, and no other
content has changed. Whatever is distributed, received or given up afterwards goes on from there:
what a backend gets beyond its queue are readings of later distributions, in their order. -/
theorem given_up_reaches_prefix (distributor : Distributor) (reading : Reading) :
    ((distributor.distribute reading).1 = .blocked → ∃ reached full rest,
      distributor.routes = reached ++ full :: rest ∧
      (∀ route ∈ reached, ¬ route.queue.Full) ∧ full.queue.Full ∧
      (distributor.distribute reading).2.routes =
        reached.map (Route.handed reading) ++ full :: rest) ∧
    ∀ (during : List Event) (blocked : List Route) (delivery : Delivery),
      Runs ⟨distributor.routes, some { reading }⟩ during ⟨blocked, some delivery⟩ →
      (∀ event ∈ during, event.Inside) → delivery.turn blocked = .waits →
      (∃ full, blocked[delivery.position]? = some full ∧ full.queue.Full) ∧
      visited during = List.range delivery.position ∧
      Continues distributor.routes (fun backend => receivedBy backend during)
        (fun backend => if backend < delivery.position then [reading] else []) blocked ∧
      ∀ spells last state, Course ⟨blocked, none⟩ spells last state →
        Continues blocked (takenOver spells last) (dueOver spells last state.current)
          state.routes := by
  refine ⟨fun stopped => ?_, fun during blocked delivery run inside waits => ⟨?_, ?_, ?_, ?_⟩⟩
  · obtain ⟨reached, full, rest, split, room, wait⟩ := Distributor.exists_full_of_blocked stopped
    rw [Distributor.distribute_of_full reading split room wait]
    exact ⟨reached, full, rest, split, room, wait, rfl⟩
  · exact Delivery.turn_eq_waits_iff.mp waits
  · obtain ⟨_, ⟨⟩, -, visits⟩ := run.visits inside
    exact visits
  · have begun : Runs ⟨distributor.routes, none⟩ [.began reading] _ := Runs.empty.next (.began reading)
    have whole := (begun.trans run).continues rfl
    have only : FanOut.begun ([.began reading] ++ during) = [reading] :=
      congrArg (reading :: ·) (begun_of_inside inside)
    rw [only] at whole
    exact whole
  · exact fun spells last state course => course.continues rfl

/-- Of four backends the second one is gone, and the third has no room when a reading is given up
there. Once it has made some, the next reading comes to all that are left. -/
theorem given_up_reaches_first :
    let older : Reading := { timestamp := .epoch, stationName := "ridge" }
    let reading : Reading := { timestamp := .epoch, stationName := "garden" }
    let next : Reading := { timestamp := .epoch, stationName := "backyard" }
    let gone : Route := ⟨"gone", { capacity := 1, listening := false }⟩
    let slow : Route := ⟨"slow", { capacity := 1, items := [older] }⟩
    let last : Route := ⟨"last", { capacity := 2 }⟩
    let distributor : Distributor := {
      queueSize := 2, routes := [⟨"first", { capacity := 2 }⟩, gone, slow, last] }
    let left := [⟨"first", { capacity := 2, items := [reading] }⟩, gone, slow, last]
    let trace := [.received 2 older, .began next, .accepted 0, .passed 1, .accepted 2, .accepted 3,
      .answered 3]
    (distributor.distribute reading).1 = .blocked ∧
    (distributor.distribute reading).2.routes = left ∧
    Continues distributor.routes (fun _ => []) (fun backend => if backend < 2 then [reading] else [])
      left ∧
    ∃ state, Course ⟨left, none⟩ [] trace state ∧
      state.routes.map (fun route => route.queue.items) = [[reading, next], [], [next], [next]] ∧
      Continues left (takenOver [] trace) (dueOver [] trace state.current) state.routes := by
  intro older reading next gone slow last distributor left trace
  obtain ⟨-, givenUp⟩ := given_up_reaches_prefix distributor reading
  have accepted : Runs ⟨distributor.routes, some { reading }⟩ [.accepted 0] _ :=
    Runs.empty.next (.accepted rfl rfl rfl)
  have passed : Runs _ [.accepted 0, .passed 1] ⟨left, _⟩ := accepted.next (.passed rfl rfl rfl)
  obtain ⟨-, -, kept, later⟩ := givenUp _ left _ passed (by simp [Event.Inside]) rfl
  have received : Runs ⟨left, none⟩ [.received 2 older] _ := Runs.empty.next (.received rfl rfl rfl)
  have began := received.next (.began next)
  have first := began.next (.accepted rfl rfl rfl)
  have second := first.next (.passed rfl rfl rfl)
  have third := second.next (.accepted rfl rfl rfl)
  have fourth := third.next (.accepted rfl rfl rfl)
  have run : Runs ⟨left, none⟩ trace _ := fourth.next (.answered rfl)
  exact ⟨rfl, rfl, kept, _, .runs run, rfl, later [] trace _ (.runs run)⟩

end FanOut

end WeatherRelay
