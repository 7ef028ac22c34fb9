import WeatherRelay.Timer

/-! Tasks that act once in every period.

Such a task acts for the first time at once or after a delay. Then it starts a timer, and it acts
again whenever the timer fires. It looks for a shutdown only while it waits. The steady clock goes on
meanwhile, and stays below its limit.
-/

set_option autoImplicit false

namespace WeatherRelay

/-- No timer with this period can be started at this time. -/
def Timer.Fails (now period : Nat) : Prop := period = 0 ∨ clockLimit ≤ now + period

/-- What a task does in every period, in circumstances that are others each time. -/
structure Routine (ε : Type) where
  /-- The time before the first act, if there is a wait for it. -/
  delay : Option Nat
  act : ε → Attempt Unit
  startTimer : Nat → Attempt Timer

namespace Routine

variable {ε : Type}

/-- What a task is at. -/
inductive Stage where
  /-- Until this time it does not act yet. -/
  | delayed (due : Nat)
  /-- Where there is a timer already, it is set for the next firing. -/
  | acting (timer : Option Timer)
  /-- The first act is over, and no timer is started yet. -/
  | acted
  | waiting (timer : Timer)
  | stopped
  | crashed
  deriving DecidableEq

/-- Whether a shutdown is looked for. -/
def Stage.listens : Stage → Bool
  | delayed _ | waiting _ => true
  | acting _ | acted | stopped | crashed => false

structure Task where
  clock : Nat
  stage : Stage
  /-- Whether there was a shutdown. -/
  stopping : Bool := false
  deriving DecidableEq

def start (routine : Routine ε) (now : Nat) : Task where
  clock := now
  stage :=
    match routine.delay with
    | none => .acting none
    | some seconds => .delayed (now + seconds)

/-- A time has come. One that the clock cannot show is replaced by some time that it can. -/
def Reached (due clock : Nat) : Prop := due ≤ clock ∨ Timer.clockLimit ≤ due

inductive Event (ε : Type) where
  | ticked
  | told
  /-- The delay is over. -/
  | began
  | acted (circumstances : ε)
  /-- An act crashed. -/
  | failed (circumstances : ε)
  | started
  | fired
  /-- There is no next firing. -/
  | noTimer (now : Nat)
  | stopped

inductive Step (routine : Routine ε) : Task → Event ε → Task → Prop where
  | ticked {task : Task} {seconds : Nat} :
      task.clock + seconds < Timer.clockLimit →
      Step routine task .ticked { task with clock := task.clock + seconds }
  | told {task : Task} : Step routine task .told { task with stopping := true }
  | stopped {task : Task} :
      task.stopping = true → task.stage.listens = true →
      Step routine task .stopped { task with stage := .stopped }
  | began {task : Task} {due : Nat} :
      task.stage = .delayed due → Reached due task.clock →
      Step routine task .began { task with stage := .acting none }
  | actedFirst {task : Task} {circumstances : ε} :
      task.stage = .acting none → routine.act circumstances ≠ .error .crash →
      Step routine task (.acted circumstances) { task with stage := .acted }
  | actedAgain {task : Task} {timer : Timer} {circumstances : ε} :
      task.stage = .acting (some timer) → routine.act circumstances ≠ .error .crash →
      Step routine task (.acted circumstances) { task with stage := .waiting timer }
  | failed {task : Task} {timer : Option Timer} {circumstances : ε} :
      task.stage = .acting timer → routine.act circumstances = .error .crash →
      Step routine task (.failed circumstances) { task with stage := .crashed }
  | started {task : Task} {timer : Timer} :
      task.stage = .acted → routine.startTimer task.clock = .ok timer →
      Step routine task .started { task with stage := .waiting timer }
  | notStarted {task : Task} {setback : Setback} :
      task.stage = .acted → routine.startTimer task.clock = .error setback →
      Step routine task (.noTimer task.clock) { task with stage := .crashed }
  /-- The next firing is a period after this one was due, or after now if it is late. -/
  | fired {task : Task} {timer : Timer} {next : Nat} :
      task.stage = .waiting timer → Reached timer.first task.clock →
      (next = timer.first + timer.period ∨ next = task.clock + timer.period) →
      Step routine task .fired { task with stage := .acting (some { timer with first := next }) }
  /-- A late firing after which the clock ends before the next one. -/
  | overran {task : Task} {timer : Timer} :
      task.stage = .waiting timer → timer.first ≤ task.clock →
      Timer.clockLimit ≤ task.clock + timer.period →
      Step routine task (.noTimer task.clock) { task with stage := .crashed }

/-- Steps one after the other, with what is seen of them. -/
inductive Runs (routine : Routine ε) (start : Task) : List (Event ε) → Task → Prop where
  | empty : Runs routine start [] start
  | next {trace : List (Event ε)} {task after : Task} {event : Event ε} :
      Runs routine start trace task → Step routine task event after →
      Runs routine start (trace ++ [event]) after

def Event.act? : Event ε → Option ε
  | acted circumstances => some circumstances
  | ticked | told | began | failed _ | started | fired | noTimer _ | stopped => none

/-- The circumstances of the acts that are over. -/
def acts (trace : List (Event ε)) : List ε := trace.filterMap Event.act?

theorem acts_append (trace more : List (Event ε)) : acts (trace ++ more) = acts trace ++ acts more :=
  List.filterMap_append

theorem acts_concat (trace : List (Event ε)) (event : Event ε) :
    acts (trace ++ [event]) = acts trace ++ event.act?.toList := by
  rw [acts_append]
  cases event <;> rfl

end Routine

/-! ### Starting a timer -/

namespace Timer

variable {now period : Nat}

theorem start_of_fails (fails : Fails now period) : start now period = .error .crash := by
  unfold start
  split
  · rfl
  · next within => exact if_pos (fails.resolve_right within)

theorem start_of_not_fails (able : ¬Fails now period) :
    start now period = .ok ⟨now + period, period⟩ := by
  obtain ⟨nonzero, within⟩ := not_or.mp able
  rw [start, if_neg within, if_neg nonzero]

theorem start_eq_ok_iff {timer : Timer} :
    start now period = .ok timer ↔ ¬Fails now period ∧ timer = ⟨now + period, period⟩ := by
  by_cases fails : Fails now period
  · simp [start_of_fails fails, fails]
  · simp [start_of_not_fails fails, fails, eq_comm]

/-- Periods that fail at all times are those that fail at the first. -/
theorem fails_always_iff : (∀ now, Fails now period) ↔ period = 0 ∨ clockLimit ≤ period := by
  constructor
  · intro always
    simpa [Fails] using always 0
  · rintro (rfl | beyond) now
    · exact .inl rfl
    · exact .inr (Nat.le_add_left_of_le beyond)

end Timer

end WeatherRelay
