import WeatherRelay.Proofs.Periodic.System

/-! The course of a periodic task.

What a task is at tells what has happened to it. It goes on until a shutdown as long as its acts do
not crash and the clock has room for its next firing.
-/

set_option autoImplicit false

namespace WeatherRelay.Routine

variable {ε : Type} {routine : Routine ε} {interval : Nat} {trace more : List (Event ε)}
  {task later : Task} {event : Event ε}

/-! ### What has happened -/

/-- What has happened to a task that is at a stage. -/
def Stage.Explained (routine : Routine ε) (interval : Nat) (trace : List (Event ε)) : Stage → Prop
  | .delayed _ | .acting none => acts trace = []
  | .acted => (acts trace).length = 1
  | .acting (some timer) | .waiting timer =>
    timer.period = interval ∧ ∃ now, ¬Timer.Fails now interval
  | .stopped => .told ∈ trace
  | .crashed =>
    (∃ circumstances, .failed circumstances ∈ trace ∧
      routine.act circumstances = .error .crash) ∨ ∃ now, .noTimer now ∈ trace

/-- What a task keeps to that starts a timer for an interval. -/
structure Tracked (routine : Routine ε) (interval : Nat) (trace : List (Event ε)) (task : Task) :
    Prop where
  told : task.stopping = true → .told ∈ trace
  noTimer : ∀ now, .noTimer now ∈ trace → Timer.Fails now interval
  once : (∀ now, Timer.Fails now interval) → (acts trace).length ≤ 1
  explained : task.stage.Explained routine interval trace

theorem Tracked.explained_at {stage : Stage} (tracked : Tracked routine interval trace task)
    (at_stage : task.stage = stage) : stage.Explained routine interval trace :=
  at_stage ▸ tracked.explained

theorem tracked_start (routine : Routine ε) (interval now : Nat) :
    Tracked routine interval [] (routine.start now) where
  told := nofun
  noTimer := nofun
  once _ := Nat.zero_le 1
  explained := by
    unfold start
    cases routine.delay <;> rfl

/-- A stage stays explained by what is no act. -/
theorem Stage.Explained.concat {stage : Stage} (explained : stage.Explained routine interval trace)
    (silent : event.act? = none) : stage.Explained routine interval (trace ++ [event]) := by
  have same : acts (trace ++ [event]) = acts trace := by
    rw [acts_concat, silent]
    exact List.append_nil _
  match stage with
  | .delayed _ | .acting none => exact same.trans explained
  | .acted => exact (congrArg List.length same).trans explained
  | .acting (some _) | .waiting _ => exact explained
  | .stopped => exact List.mem_append_left _ explained
  | .crashed =>
    rcases explained with ⟨circumstances, seen, crash⟩ | ⟨now, seen⟩
    · exact .inl ⟨circumstances, List.mem_append_left _ seen, crash⟩
    · exact .inr ⟨now, List.mem_append_left _ seen⟩

section Step

variable (timed : ∀ now, routine.startTimer now = Timer.start now interval)
include timed

theorem Step.explained (step : Step routine task event later)
    (tracked : Tracked routine interval trace task) :
    later.stage.Explained routine interval (trace ++ [event]) := by
  cases step with
  | ticked | told => exact tracked.explained.concat rfl
  | stopped stopping => exact List.mem_append_left _ (tracked.told stopping)
  | began stage =>
    have fresh : acts trace = [] := tracked.explained_at stage
    exact (show (Stage.acting none).Explained routine interval trace from fresh).concat rfl
  | actedFirst stage =>
    have fresh : acts trace = [] := tracked.explained_at stage
    change (acts _).length = 1
    rw [acts_concat, fresh]
    rfl
  | actedAgain stage | fired stage => exact tracked.explained_at stage
  | failed _ crash =>
    exact .inl ⟨_, List.mem_append_right _ (List.mem_singleton_self _), crash⟩
  | started _ started =>
    rw [timed, Timer.start_eq_ok_iff] at started
    obtain ⟨able, rfl⟩ := started
    exact ⟨rfl, _, able⟩
  | notStarted | overran => exact .inr ⟨_, List.mem_append_right _ (List.mem_singleton_self _)⟩

theorem Step.fails_of_noTimer {now : Nat} (step : Step routine task (.noTimer now) later)
    (tracked : Tracked routine interval trace task) : Timer.Fails now interval := by
  generalize seen : Event.noTimer now = event at step
  cases step with
  | notStarted _ failed =>
    cases seen
    rcases Classical.em (Timer.Fails task.clock interval) with fails | able
    · exact fails
    · rw [timed, Timer.start_of_not_fails able] at failed
      contradiction
  | overran stage _ beyond =>
    cases seen
    obtain ⟨rfl, -⟩ := tracked.explained_at stage
    exact .inr beyond
  | _ => contradiction

omit timed in
theorem Step.told_of_stopping (step : Step routine task event later)
    (tracked : Tracked routine interval trace task) (stopping : later.stopping = true) :
    .told ∈ trace ++ [event] := by
  cases step with
  | told => exact List.mem_append_right _ (List.mem_singleton_self _)
  | ticked | stopped | began | actedFirst | actedAgain | failed | started | notStarted | fired
  | overran => exact List.mem_append_left _ (tracked.told stopping)

omit timed in
theorem Step.once (step : Step routine task event later)
    (tracked : Tracked routine interval trace task) (always : ∀ now, Timer.Fails now interval) :
    (acts (trace ++ [event])).length ≤ 1 := by
  rw [acts_concat]
  cases step with
  | actedFirst stage =>
    have fresh : acts trace = [] := tracked.explained_at stage
    rw [fresh]
    exact Nat.le_refl 1
  | actedAgain stage =>
    -- A second act comes after a timer, which there cannot be.
    obtain ⟨-, now, able⟩ := tracked.explained_at stage
    exact absurd (always now) able
  | ticked | told | stopped | began | failed | started | notStarted | fired | overran =>
    simpa [Event.act?] using tracked.once always

theorem Tracked.step (tracked : Tracked routine interval trace task)
    (step : Step routine task event later) :
    Tracked routine interval (trace ++ [event]) later where
  told := step.told_of_stopping tracked
  noTimer now seen := by
    rcases List.mem_append.mp seen with earlier | last
    · exact tracked.noTimer now earlier
    · obtain rfl := List.mem_singleton.mp last
      exact step.fails_of_noTimer timed tracked
  once := step.once tracked
  explained := step.explained timed tracked

theorem Runs.tracked {now : Nat} (run : Runs routine (routine.start now) trace task) :
    Tracked routine interval trace task := by
  induction run with
  | empty => exact tracked_start routine interval now
  | next _ step ih => exact ih.step timed step

end Step

/-! ### What comes -/

theorem Runs.trans {middle : Task} {first second : List (Event ε)}
    (run : Runs routine task first middle) (further : Runs routine middle second later) :
    Runs routine task (first ++ second) later := by
  induction further with
  | empty => simpa using run
  | next _ step ih =>
    rw [← List.append_assoc]
    exact ih.next step

/-- Nothing happens to a task that has ended. -/
theorem Runs.ended (run : Runs routine task more later)
    (ended : task.stage = .stopped ∨ task.stage = .crashed) :
    later.stage = task.stage ∧ acts more = [] := by
  induction run with
  | empty => exact ⟨rfl, rfl⟩
  | next _ step ih =>
    obtain ⟨same, none⟩ := ih
    rw [acts_concat, none]
    cases step with
    | ticked | told => exact ⟨same, rfl⟩
    | stopped _ listens =>
      rw [same] at listens
      rcases ended with ended | ended <;> rw [ended] at listens <;> contradiction
    | began stage | actedFirst stage | actedAgain stage | failed stage | started stage
    | notStarted stage | fired stage | overran stage =>
      rw [same] at stage
      rcases ended with ended | ended <;> rw [ended] at stage <;> contradiction

/-- The clock comes to every time that it can show. -/
theorem exists_reached (routine : Routine ε) (task : Task) (due : Nat) :
    ∃ more clock, Runs routine task more { task with clock } ∧ Reached due clock ∧
      acts more = [] := by
  by_cases reached : Reached due task.clock
  · exact ⟨[], task.clock, .empty, reached, rfl⟩
  · obtain ⟨ahead, within⟩ := not_or.mp reached
    have next : task.clock + (due - task.clock) = due := Nat.add_sub_cancel' (Nat.le_of_not_le ahead)
    have tick : Step routine task .ticked { task with clock := task.clock + (due - task.clock) } :=
      .ticked (by rw [next]; exact Nat.lt_of_not_le within)
    rw [next] at tick
    exact ⟨_, due, Runs.empty.next tick, .inl (Nat.le_refl due), rfl⟩

section Goes

variable {circumstances : ε} (able : routine.act circumstances ≠ .error .crash)
include able

/-- A task that has not acted yet comes to its first act. -/
theorem exists_first
    (early : task.stage = .acting none ∨ ∃ due, task.stage = .delayed due) :
    ∃ more clock, Runs routine task more { task with clock, stage := .acted } ∧
      acts more = [circumstances] := by
  rcases early with stage | ⟨due, stage⟩
  · exact ⟨_, task.clock, Runs.empty.next (.actedFirst stage able), rfl⟩
  · obtain ⟨more, clock, run, reached, none⟩ := exists_reached routine task due
    have began := run.next (.began stage reached)
    refine ⟨_, clock, began.next (.actedFirst rfl able), ?_⟩
    rw [acts_concat, acts_concat, none]
    rfl

/-- A task that has a timer comes to its next act, and waits again after it. -/
theorem exists_again {timer : Timer}
    (under : task.stage = .acting (some timer) ∨ task.stage = .waiting timer) :
    ∃ more clock next, Runs routine task more { task with clock, stage := .waiting next } ∧
      acts more = [circumstances] := by
  rcases under with stage | stage
  · exact ⟨_, task.clock, timer, Runs.empty.next (.actedAgain stage able), rfl⟩
  · obtain ⟨more, clock, run, reached, none⟩ := exists_reached routine task timer.first
    have fired := run.next (.fired stage reached (.inl rfl))
    refine ⟨_, clock, _, fired.next (.actedAgain rfl able), ?_⟩
    rw [acts_concat, acts_concat, none]
    rfl

end Goes

/-- It comes to as many acts as one likes. -/
theorem exists_acts {timer : Timer} (circumstances : List ε)
    (able : ∀ each ∈ circumstances, routine.act each ≠ .error .crash)
    (under : task.stage = .acting (some timer) ∨ task.stage = .waiting timer) :
    ∃ more later, Runs routine task more later ∧ acts more = circumstances ∧
      later.stopping = task.stopping := by
  induction circumstances generalizing task timer with
  | nil => exact ⟨[], task, .empty, rfl, rfl⟩
  | cons first rest ih =>
    obtain ⟨more, clock, next, run, acted⟩ := exists_again (able first List.mem_cons_self) under
    obtain ⟨further, later, beyond, others, same⟩ :=
      @ih { task with clock, stage := .waiting next } next
        (fun each among => able each (List.mem_cons_of_mem _ among)) (.inr rfl)
    refine ⟨more ++ further, later, run.trans beyond, ?_, same⟩
    rw [acts_append, acted, others, List.singleton_append]

end WeatherRelay.Routine
