import WeatherRelay.Consumer

/-! What becomes of the readings that a handler is given, one after the other.

A failure is logged, and the next reading is handled in the state that the failure left. After a
crash there is no next one.
-/

set_option autoImplicit false

namespace WeatherRelay.Consumer

variable {σ : Type} {consumer : Consumer σ} {readings : List Reading} {events : List Event}
  {initial state after : σ} {reading : Reading}

/-- Readings that were handled, with all that was logged meanwhile and the state to which they led. -/
inductive Handles (consumer : Consumer σ) (initial : σ) : List Reading → List Event → σ → Prop where
  | nothing : Handles consumer initial [] [] initial
  | handled {readings : List Reading} {events later : List Event} {state after : σ}
      {reading : Reading} :
      Handles consumer initial readings events state →
      consumer.handle reading state = (.ok later, after) →
      Handles consumer initial (readings ++ [reading]) (events ++ later) after
  | failed {readings : List Reading} {events : List Event} {state after : σ} {reading : Reading}
      {cause : Failure} :
      Handles consumer initial readings events state →
      consumer.handle reading state = (.error (.failure cause), after) →
      Handles consumer initial (readings ++ [reading])
        (events ++ [failureEvent consumer.backend reading cause]) after

theorem consume_eq_some_iff :
    consumer.consume reading state = (some events, after) ↔
      consumer.handle reading state = (.ok events, after) ∨
      ∃ cause, consumer.handle reading state = (.error (.failure cause), after) ∧
        events = [failureEvent consumer.backend reading cause] := by
  unfold consume
  rcases consumer.handle reading state with ⟨(cause | _) | later, last⟩
  · simp only [Prod.mk.injEq, Option.some.injEq, reduceCtorEq, false_and, Except.error.injEq,
      Setback.failure.injEq, false_or]
    constructor
    · rintro ⟨rfl, rfl⟩
      exact ⟨cause, ⟨rfl, rfl⟩, rfl⟩
    · rintro ⟨_, ⟨rfl, rfl⟩, rfl⟩
      exact ⟨rfl, rfl⟩
  · simp
  · simp

theorem consume_eq_none_iff :
    consumer.consume reading state = (none, after) ↔
      consumer.handle reading state = (.error .crash, after) := by
  unfold consume
  rcases consumer.handle reading state with ⟨(cause | _) | later, last⟩ <;> simp

/-- A reading that does not crash the consumer is one more that is handled. -/
theorem Handles.next {later : List Event} (handles : consumer.Handles initial readings events state)
    (consumed : consumer.consume reading state = (some later, after)) :
    consumer.Handles initial (readings ++ [reading]) (events ++ later) after := by
  rcases consume_eq_some_iff.mp consumed with handled | ⟨cause, failed, rfl⟩
  · exact handles.handled handled
  · exact handles.failed failed

-- A row of readings may be cut anywhere, since what a crash leaves is not handed on.
theorem drain_append (consumer : Consumer σ) (earlier later : List Reading) (initial : σ) :
    consumer.drain (earlier ++ later) initial =
      match consumer.drain earlier initial with
      | (false, events, state) => (false, events, state)
      | (true, events, state) =>
        let (alive, more, last) := consumer.drain later state
        (alive, events ++ more, last) := by
  induction earlier generalizing initial with
  | nil => rfl
  | cons first rest ih =>
    simp only [List.cons_append, drain]
    rcases consumer.consume first initial with ⟨_ | events, state⟩
    · rfl
    · simp only [ih state]
      rcases consumer.drain rest state with ⟨_ | _, more, last⟩
      · rfl
      · simp only [List.append_assoc]

/-- One more reading is handled by a consumer that is still there. -/
theorem drain_concat (drained : consumer.drain readings initial = (true, events, state))
    (reading : Reading) :
    consumer.drain (readings ++ [reading]) initial =
      match consumer.consume reading state with
      | (none, last) => (false, events, last)
      | (some later, last) => (true, events ++ later, last) := by
  rw [drain_append, drained]
  rcases consumed : consumer.consume reading state with ⟨_ | later, last⟩ <;> simp [drain, consumed]

theorem Handles.drained (handles : consumer.Handles initial readings events state) :
    consumer.drain readings initial = (true, events, state) := by
  induction handles with
  | nothing => rfl
  | handled _ handled ih =>
    rw [drain_concat ih, consume_eq_some_iff.mpr (.inl handled)]
  | failed _ failed ih =>
    rw [drain_concat ih, consume_eq_some_iff.mpr (.inr ⟨_, failed, rfl⟩)]

/-- A consumer that crashes on a reading is not there for the rest. -/
theorem Handles.crashed (handles : consumer.Handles initial readings events state)
    (crashed : consumer.handle reading state = (.error .crash, after)) (rest : List Reading) :
    consumer.drain (readings ++ reading :: rest) initial = (false, events, after) := by
  rw [drain_append, handles.drained]
  simp [drain, consume_eq_none_iff.mpr crashed]

end WeatherRelay.Consumer
