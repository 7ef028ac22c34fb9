import WeatherRelay.Proofs.FanOut.System

/-! A delivery answers with the number of queues that took its reading.

The positions at which it was accepted increase along with its own position, so that no backend is
counted twice.
-/

set_option autoImplicit false

namespace WeatherRelay.FanOut

/-- The backends whose queues took a reading, in order. -/
def acceptedBy (trace : List Event) : List Nat :=
  trace.filterMap fun
    | .accepted backend => some backend
    | _ => none

/-- An event that is neither the beginning nor the end of a delivery. -/
def Event.Inside : Event → Prop
  | .began _ | .answered _ => False
  | _ => True

/-- A trace ends in the offers of one delivery, from its beginning on, which some backends
accepted, each of them once. -/
def EndsInOffers (trace : List Event) (reading : Reading) (accepting : List Nat) : Prop :=
  ∃ earlier offers, trace = earlier ++ .began reading :: offers ∧
    (∀ event ∈ offers, event.Inside) ∧ acceptedBy offers = accepting ∧ accepting.Nodup

/-- The number of backends that accepted the reading of a delivery is known all along. -/
def CountsOffers (trace : List Event) (delivery : Delivery) : Prop :=
  ∃ accepting, EndsInOffers trace delivery.reading accepting ∧
    accepting.length = delivery.accepted ∧ ∀ backend ∈ accepting, backend < delivery.position

section Offers

variable {trace : List Event} {reading : Reading} {accepting : List Nat} {event : Event}

theorem EndsInOffers.began (trace : List Event) (reading : Reading) :
    EndsInOffers (trace ++ [.began reading]) reading [] :=
  ⟨trace, [], rfl, by simp, rfl, List.nodup_nil⟩

theorem EndsInOffers.accepted {backend : Nat} (offered : EndsInOffers trace reading accepting)
    (new : backend ∉ accepting) :
    EndsInOffers (trace ++ [.accepted backend]) reading (accepting ++ [backend]) := by
  obtain ⟨earlier, offers, rfl, inside, rfl, once⟩ := offered
  refine ⟨earlier, offers ++ [.accepted backend], by simp, ?_, by simp [acceptedBy], ?_⟩
  · intro event member
    rcases List.mem_append.mp member with before | last
    · exact inside event before
    · exact (List.mem_singleton.mp last) ▸ trivial
  · exact List.nodup_append.mpr ⟨once, by simp, by
      intro other member last same
      exact fun equal => new (List.mem_singleton.mp same ▸ equal ▸ member)⟩

theorem EndsInOffers.other (offered : EndsInOffers trace reading accepting) (inside : event.Inside)
    (nobody : ∀ backend, event ≠ .accepted backend) :
    EndsInOffers (trace ++ [event]) reading accepting := by
  obtain ⟨earlier, offers, rfl, allInside, rfl, once⟩ := offered
  have same : acceptedBy (offers ++ [event]) = acceptedBy offers := by
    unfold acceptedBy
    rw [List.filterMap_append]
    cases event with
    | accepted backend => exact absurd rfl (nobody backend)
    | _ => simp
  refine ⟨earlier, offers ++ [event], by simp, ?_, same, once⟩
  intro other member
  rcases List.mem_append.mp member with before | last
  · exact allInside other before
  · exact (List.mem_singleton.mp last) ▸ inside

end Offers

-- The position grows with every offer, so a backend that accepts was not counted before.
theorem Step.countsOffers {state after : FanOut} {event : Event} {trace : List Event}
    (counts : ∀ delivery, state.current = some delivery → CountsOffers trace delivery)
    (step : Step state event after) :
    ∀ delivery, after.current = some delivery → CountsOffers (trace ++ [event]) delivery := by
  cases step with
  | began reading =>
    rintro delivery ⟨⟩
    exact ⟨[], .began trace reading, rfl, by simp⟩
  | accepted found taken turned =>
    rw [Delivery.turn_of_taken found taken] at turned
    cases turned
    rintro delivery ⟨⟩
    obtain ⟨accepting, offered, length, below⟩ := counts _ rfl
    refine ⟨_, offered.accepted fun member => Nat.lt_irrefl _ (below _ member), ?_, ?_⟩
    · simp [length]
    · intro backend member
      rcases List.mem_append.mp member with before | last
      · exact Nat.lt_succ_of_lt (below backend before)
      · exact List.mem_singleton.mp last ▸ Nat.lt_succ_self _
  | passed found refused turned =>
    rw [Delivery.turn_of_refused found refused] at turned
    cases turned
    rintro delivery ⟨⟩
    obtain ⟨accepting, offered, length, below⟩ := counts _ rfl
    exact ⟨accepting, offered.other trivial (by simp), length,
      fun backend member => Nat.lt_succ_of_lt (below backend member)⟩
  | answered =>
    rintro delivery ⟨⟩
  | received =>
    intro delivery current
    obtain ⟨accepting, offered, rest⟩ := counts delivery current
    exact ⟨accepting, offered.other trivial (by simp), rest⟩
  | hungUp =>
    intro delivery current
    obtain ⟨accepting, offered, rest⟩ := counts delivery current
    exact ⟨accepting, offered.other trivial (by simp), rest⟩

theorem Runs.countsOffers {start state : FanOut} {trace : List Event}
    (nothing : start.current = none) (run : Runs start trace state) :
    ∀ delivery, state.current = some delivery → CountsOffers trace delivery := by
  induction run with
  | empty =>
    intro delivery current
    rw [nothing] at current
    cases current
  | next _ step ih => exact step.countsOffers ih

/-- Every answer is the number of backends that accepted the reading. -/
theorem Runs.answers {start state : FanOut} {trace : List Event} (nothing : start.current = none)
    (run : Runs start trace state) :
    Throughout (fun before event => ∀ count, event = .answered count →
      ∃ reading accepting, EndsInOffers before reading accepting ∧ count = accepting.length)
      trace := by
  induction run with
  | empty => exact throughout_nil _
  | @next trace state after event run step ih =>
    refine throughout_concat.mpr ⟨ih, ?_⟩
    rintro count rfl
    cases step with
    | @answered routes delivery arrived =>
      obtain ⟨accepting, offered, length, _⟩ := run.countsOffers nothing delivery rfl
      exact ⟨delivery.reading, accepting, offered, length.symm⟩

end WeatherRelay.FanOut
