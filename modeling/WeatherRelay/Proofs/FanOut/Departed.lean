import WeatherRelay.Proofs.FanOut.System

/-! A backend that went away makes no difference to the others.

Taking its route out leaves a system that does just the same: every run with the departed backend
is a run without it once the turns that pass it are left out, and every run without it becomes one
with it by putting them in.
-/

set_option autoImplicit false

namespace WeatherRelay.FanOut

/-- The position of a backend once another one is taken out. -/
def shift (gone backend : Nat) : Nat := if gone < backend then backend - 1 else backend

/-- A delivery among the routes that are left. -/
def shifted (gone : Nat) (delivery : Delivery) : Delivery :=
  { delivery with position := shift gone delivery.position }

/-- A system without one of its routes. -/
def without (gone : Nat) (state : FanOut) : FanOut where
  routes := state.routes.eraseIdx gone
  current := state.current.map (shifted gone)

/-- What is seen of a step where one backend is not looked at. -/
def Event.without? (gone : Nat) : Event → Option Event
  | .began reading => some (.began reading)
  | .answered count => some (.answered count)
  | .accepted backend => if backend = gone then none else some (.accepted (shift gone backend))
  | .passed backend => if backend = gone then none else some (.passed (shift gone backend))
  | .received backend reading =>
    if backend = gone then none else some (.received (shift gone backend) reading)
  | .hungUp backend => if backend = gone then none else some (.hungUp (shift gone backend))

def traceWithout (gone : Nat) (trace : List Event) : List Event :=
  trace.filterMap (Event.without? gone)

/-- Nobody receives from a route any more. -/
def Departed (gone : Nat) (state : FanOut) : Prop :=
  ∃ route, state.routes[gone]? = some route ∧ route.queue.listening = false

section Positions

variable {gone backend : Nat} {routes : List Route}

theorem shift_self (gone : Nat) : shift gone gone = gone := if_neg (Nat.lt_irrefl gone)

theorem shift_zero (gone : Nat) : shift gone 0 = 0 := if_neg (Nat.not_lt_zero gone)

theorem shift_succ_self (gone : Nat) : shift gone (gone + 1) = gone := if_pos (Nat.lt_succ_self gone)

theorem shift_succ (other : backend ≠ gone) : shift gone (backend + 1) = shift gone backend + 1 := by
  unfold shift
  split <;> split <;> omega

theorem getElem?_eraseIdx_shift (other : backend ≠ gone) :
    (routes.eraseIdx gone)[shift gone backend]? = routes[backend]? := by
  rw [List.getElem?_eraseIdx]
  unfold shift
  split
  case isTrue behind =>
    rw [if_neg (by omega), Nat.sub_add_cancel (Nat.one_le_of_lt behind)]
  case isFalse before => rw [if_pos (by omega)]

theorem eraseIdx_set_shift (other : backend ≠ gone) (route : Route) :
    (routes.set backend route).eraseIdx gone =
      (routes.eraseIdx gone).set (shift gone backend) route := by
  unfold shift
  split
  case isTrue behind => exact List.eraseIdx_set_lt behind
  case isFalse before => exact List.eraseIdx_set_gt (by omega)

-- Every position in the shorter list comes from another one than that of the departed.
theorem exists_shift_eq (gone position : Nat) :
    ∃ backend, backend ≠ gone ∧ shift gone backend = position := by
  by_cases before : position < gone
  · exact ⟨position, by omega, if_neg (by omega)⟩
  · exact ⟨position + 1, by omega, if_pos (by omega)⟩

end Positions

theorem shifted_succ {gone accepted : Nat} {delivery : Delivery}
    (other : delivery.position ≠ gone) :
    shifted gone { delivery with position := delivery.position + 1, accepted } =
      { shifted gone delivery with position := (shifted gone delivery).position + 1, accepted } := by
  unfold shifted
  dsimp only
  rw [shift_succ other]

theorem traceWithout_append (gone : Nat) (earlier later : List Event) :
    traceWithout gone (earlier ++ later) = traceWithout gone earlier ++ traceWithout gone later :=
  List.filterMap_append

theorem traceWithout_concat (gone : Nat) (trace : List Event) (event : Event) :
    traceWithout gone (trace ++ [event]) =
      traceWithout gone trace ++ (event.without? gone).toList := by
  unfold traceWithout
  rw [List.filterMap_append]
  cases seen : event.without? gone <;> simp [seen]

section Turns

variable {gone : Nat} {routes : List Route} {delivery : Delivery}

theorem Departed.ne_of_listening {state : FanOut} (departed : Departed gone state) {backend : Nat}
    {route : Route} (found : state.routes[backend]? = some route)
    (listening : route.queue.listening = true) : backend ≠ gone := by
  rintro rfl
  obtain ⟨other, same, silent⟩ := departed
  cases found.symm.trans same
  exact absurd listening (by simp [silent])

theorem Departed.set {state : FanOut} (departed : Departed gone state) {backend : Nat}
    (other : backend ≠ gone) (route : Route) (current : Option Delivery) :
    Departed gone ⟨state.routes.set backend route, current⟩ := by
  obtain ⟨silentRoute, found, silent⟩ := departed
  refine ⟨silentRoute, ?_, silent⟩
  rw [List.getElem?_set_ne other]
  exact found

-- A route is changed only by a backend that listens, so the departed one stays as it is.
theorem Step.departed {state after : FanOut} {event : Event} (departed : Departed gone state)
    (step : Step state event after) : Departed gone after := by
  cases step with
  | began => exact departed
  | accepted found taken turned =>
    have listening := (Queue.offer_eq_taken_iff.mp taken).1
    rw [Delivery.turn_of_taken found taken] at turned
    cases turned
    exact departed.set (departed.ne_of_listening found listening) _ _
  | passed found refused turned =>
    rw [Delivery.turn_of_refused found refused] at turned
    cases turned
    exact departed
  | answered => exact departed
  | received found listening => exact departed.set (departed.ne_of_listening found listening) _ _
  | hungUp found listening => exact departed.set (departed.ne_of_listening found listening) _ _

theorem arrived_without_iff (inside : gone < routes.length) (other : delivery.position ≠ gone) :
    (shifted gone delivery).turn (routes.eraseIdx gone) = .arrived ↔
      delivery.turn routes = .arrived := by
  rw [Delivery.turn_eq_arrived_iff, Delivery.turn_eq_arrived_iff, List.length_eraseIdx_of_lt inside]
  unfold shifted shift
  split <;> dsimp only <;> omega

end Turns

/-- A step is the same step without the departed backend, or it passes that and is none. -/
theorem Step.reduce {gone : Nat} {state after : FanOut} {event : Event}
    (departed : Departed gone state) (step : Step state event after) :
    match event.without? gone with
    | some seen => Step (state.without gone) seen (after.without gone)
    | none => after.without gone = state.without gone := by
  cases step with
  | @began routes reading =>
    have first : Step ⟨routes.eraseIdx gone, none⟩ (.began reading) _ := .began reading
    simp only [Event.without?, without, Option.map_some, shifted, shift_zero]
    exact first
  | @accepted routes _ delivery _ _ _ found taken turned =>
    have other := departed.ne_of_listening found (Queue.offer_eq_taken_iff.mp taken).1
    rw [Delivery.turn_of_taken found taken] at turned
    cases turned
    have there : (routes.eraseIdx gone)[(shifted gone delivery).position]? = some _ :=
      (getElem?_eraseIdx_shift other).trans found
    have same := Step.accepted there taken (Delivery.turn_of_taken there taken)
    simp only [Event.without?, if_neg other, without, Option.map_some, eraseIdx_set_shift other]
    rw [shifted_succ other]
    exact same
  | @passed routes _ delivery _ _ found refused turned =>
    rw [Delivery.turn_of_refused found refused] at turned
    cases turned
    by_cases here : delivery.position = gone
    · subst here
      simp only [Event.without?, if_true, without, Option.map_some, shifted, shift_self,
        shift_succ_self]
    · have there : (routes.eraseIdx gone)[(shifted gone delivery).position]? = some _ :=
        (getElem?_eraseIdx_shift here).trans found
      have same := Step.passed there refused (Delivery.turn_of_refused there refused)
      simp only [Event.without?, if_neg here, without, Option.map_some]
      rw [shifted_succ here]
      exact same
  | @answered routes delivery arrived =>
    obtain ⟨_, found, _⟩ := departed
    have inside := (List.getElem?_eq_some_iff.mp found).1
    have other : delivery.position ≠ gone :=
      Nat.ne_of_gt (Nat.lt_of_lt_of_le inside (Delivery.turn_eq_arrived_iff.mp arrived))
    exact Step.answered ((arrived_without_iff inside other).mpr arrived)
  | @received routes current _ _ _ _ found listening received =>
    have other := departed.ne_of_listening found listening
    have same : Step ⟨_, current.map (shifted gone)⟩ _ _ :=
      .received ((getElem?_eraseIdx_shift other).trans found) listening received
    simp only [Event.without?, if_neg other, without, eraseIdx_set_shift other]
    exact same
  | @hungUp routes current _ _ found listening =>
    have other := departed.ne_of_listening found listening
    have same : Step ⟨_, current.map (shifted gone)⟩ _ _ :=
      .hungUp ((getElem?_eraseIdx_shift other).trans found) listening
    simp only [Event.without?, if_neg other, without, eraseIdx_set_shift other]
    exact same

/-- A run with a departed backend is a run without it. -/
theorem Runs.reduce {gone : Nat} {state after : FanOut} {trace : List Event}
    (departed : Departed gone state) (run : Runs state trace after) :
    Departed gone after ∧
      Runs (state.without gone) (traceWithout gone trace) (after.without gone) := by
  induction run with
  | empty => exact ⟨departed, .empty⟩
  | @next trace middle after event _ step ih =>
    obtain ⟨stillDeparted, reduced⟩ := ih
    refine ⟨step.departed stillDeparted, ?_⟩
    have same := step.reduce stillDeparted
    rw [traceWithout_concat]
    cases seen : event.without? gone with
    | none =>
      rw [seen] at same
      simpa [same] using reduced
    | some visible =>
      rw [seen] at same
      exact reduced.next same

/-- A step without the departed backend is a step with it, unless that is just to be passed. -/
theorem Step.extend {gone : Nat} {routes : List Route} {current : Option Delivery}
    {reduced : FanOut} {seen : Event} (departed : Departed gone ⟨routes, current⟩)
    (elsewhere : ∀ delivery, current = some delivery → delivery.position ≠ gone)
    (step : Step (without gone ⟨routes, current⟩) seen reduced) :
    ∃ event after, Step ⟨routes, current⟩ event after ∧ event.without? gone = some seen ∧
      after.without gone = reduced := by
  unfold without at step
  generalize same : current.map (shifted gone) = mapped at step
  cases step with
  | began reading =>
    cases Option.map_eq_none_iff.mp same
    refine ⟨_, _, .began reading, rfl, ?_⟩
    simp only [without, Option.map_some, shifted, shift_zero]
  | accepted found taken turned =>
    obtain ⟨delivery, rfl, rfl⟩ := Option.map_eq_some_iff.mp same
    have other := elsewhere delivery rfl
    rw [Delivery.turn_of_taken found taken] at turned
    cases turned
    have there : routes[delivery.position]? = some _ := (getElem?_eraseIdx_shift other).symm.trans found
    refine ⟨_, _, .accepted there taken (Delivery.turn_of_taken there taken), if_neg other, ?_⟩
    simp only [without, Option.map_some, eraseIdx_set_shift other]
    rw [shifted_succ other]
    rfl
  | passed found refused turned =>
    obtain ⟨delivery, rfl, rfl⟩ := Option.map_eq_some_iff.mp same
    have other := elsewhere delivery rfl
    rw [Delivery.turn_of_refused found refused] at turned
    cases turned
    have there : routes[delivery.position]? = some _ := (getElem?_eraseIdx_shift other).symm.trans found
    refine ⟨_, _, .passed there refused (Delivery.turn_of_refused there refused), if_neg other, ?_⟩
    simp only [without, Option.map_some]
    rw [shifted_succ other]
    rfl
  | answered arrived =>
    obtain ⟨delivery, rfl, rfl⟩ := Option.map_eq_some_iff.mp same
    obtain ⟨_, found, _⟩ := departed
    have inside := (List.getElem?_eq_some_iff.mp found).1
    exact ⟨_, _, .answered ((arrived_without_iff inside (elsewhere delivery rfl)).mp arrived), rfl,
      rfl⟩
  | @received _ _ position _ _ _ found listening received =>
    obtain ⟨backend, other, rfl⟩ := exists_shift_eq gone position
    rw [getElem?_eraseIdx_shift other] at found
    refine ⟨_, _, .received found listening received, if_neg other, ?_⟩
    simp only [without, eraseIdx_set_shift other, same]
  | @hungUp _ _ position _ found listening =>
    obtain ⟨backend, other, rfl⟩ := exists_shift_eq gone position
    rw [getElem?_eraseIdx_shift other] at found
    refine ⟨_, _, .hungUp found listening, if_neg other, ?_⟩
    simp only [without, eraseIdx_set_shift other, same]

-- The one thing that happens to a departed backend: a delivery that has come to it goes on.
theorem Departed.pass {gone : Nat} {routes : List Route} {delivery : Delivery}
    (departed : Departed gone ⟨routes, some delivery⟩) (here : delivery.position = gone) :
    ∃ next, next.position ≠ gone ∧ Step ⟨routes, some delivery⟩ (.passed gone) ⟨routes, some next⟩ ∧
      without gone ⟨routes, some next⟩ = without gone ⟨routes, some delivery⟩ := by
  obtain ⟨route, found, silent⟩ := departed
  subst here
  have refused : route.queue.offer delivery.reading = .refused :=
    Queue.offer_eq_refused_iff.mpr silent
  refine ⟨{ delivery with position := delivery.position + 1 }, Nat.succ_ne_self _,
    .passed found refused (Delivery.turn_of_refused found refused), ?_⟩
  simp only [without, Option.map_some, shifted, shift_self, shift_succ_self]

/-- A run without the departed backend is what is left of a run with it. -/
theorem Runs.extend {gone : Nat} {state reduced : FanOut} {seen : List Event}
    (departed : Departed gone state) (run : Runs (state.without gone) seen reduced) :
    ∃ trace after, Runs state trace after ∧ traceWithout gone trace = seen ∧
      after.without gone = reduced := by
  induction run with
  | empty => exact ⟨[], state, .empty, rfl, rfl⟩
  | @next earlier middle last visible _ step ih =>
    obtain ⟨trace, reached, run, rfl, rfl⟩ := ih
    have stillDeparted := (run.reduce departed).1
    -- Where the delivery has come to the departed backend it passes that first.
    obtain ⟨passing, ⟨routes, current⟩, goesOn, hidden, unchanged, elsewhere⟩ :
        ∃ passing waiting, Runs reached passing waiting ∧ traceWithout gone passing = [] ∧
          waiting.without gone = reached.without gone ∧
          ∀ delivery, waiting.current = some delivery → delivery.position ≠ gone := by
      obtain ⟨routes, current⟩ := reached
      by_cases away : ∀ delivery, current = some delivery → delivery.position ≠ gone
      · exact ⟨[], _, .empty, rfl, rfl, away⟩
      · push Not at away
        obtain ⟨delivery, rfl, here⟩ := away
        obtain ⟨next, past, passes, same⟩ := stillDeparted.pass here
        refine ⟨[.passed gone], _, Runs.empty.next passes, by simp [traceWithout, Event.without?],
          same, ?_⟩
        rintro other ⟨⟩
        exact past
    rw [← unchanged] at step
    obtain ⟨event, after, whole, visibleEvent, same⟩ :=
      step.extend (goesOn.reduce stillDeparted).1 elsewhere
    refine ⟨trace ++ passing ++ [event], after, (run.trans goesOn).next whole, ?_, same⟩
    rw [traceWithout_concat, traceWithout_append, hidden, visibleEvent, List.append_nil]
    rfl

end WeatherRelay.FanOut
