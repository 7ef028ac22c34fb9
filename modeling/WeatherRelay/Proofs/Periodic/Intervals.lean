import WeatherRelay.Proofs.Periodic.Course
import WeatherRelay.Proofs.Transmitter.WireDiscipline
import WeatherRelay.ReportBackend

/-! Reporting and the login test at the intervals that are set.

Settings are accepted for their server, whatever their times are. An interval of zero and one beyond
the clock are noticed by the tasks only, after their first act, and they crash on them. With all
others they go on until a shutdown.
-/

set_option autoImplicit false

namespace WeatherRelay

/-! ### The course at an interval -/

namespace Routine

variable {ε : Type}

/-- How a task that starts a timer for an interval goes on from any time of its run. -/
structure Keeps (routine : Routine ε) (interval : Nat) (trace : List (Event ε)) (task : Task) :
    Prop where
  /-- It stops in a shutdown only, -/
  stopped : task.stage = .stopped → .told ∈ trace
  /-- and crashes only where an act does, or for want of a timer. -/
  crashed : task.stage = .crashed →
    (∃ circumstances, .failed circumstances ∈ trace ∧
      routine.act circumstances = .error .crash) ∨ ∃ now, .noTimer now ∈ trace
  noTimer : ∀ now, .noTimer now ∈ trace → Timer.Fails now interval
  /-- It comes to its first act. -/
  first : (task.stage = .acting none ∨ ∃ due, task.stage = .delayed due) →
    ∀ circumstances, routine.act circumstances ≠ .error .crash →
      ∃ more clock, Runs routine task more { task with clock, stage := .acted } ∧
        acts more = [circumstances]
  /-- If no timer can be started then, all that it does is to crash. -/
  fails : task.stage = .acted → Timer.Fails task.clock interval →
    Step routine task (.noTimer task.clock) { task with stage := .crashed } ∧
      ∀ event later, Step routine task event later →
        later.stage = .acted ∨ later.stage = .crashed
  /-- Otherwise it does not crash but starts one, -/
  starts : task.stage = .acted → ¬Timer.Fails task.clock interval →
    Step routine task .started
      { task with stage := .waiting ⟨task.clock + interval, interval⟩ } ∧
      ∀ event later, Step routine task event later → later.stage ≠ .crashed
  /-- and from then on it can come to any number of acts, with no shutdown on the way. -/
  again : ∀ timer, task.stage = .acting (some timer) ∨ task.stage = .waiting timer →
    ∀ circumstances, (∀ each ∈ circumstances, routine.act each ≠ .error .crash) →
      ∃ more later, Runs routine task more later ∧ acts more = circumstances ∧
        later.stopping = task.stopping
  /-- There is no second act at an interval with which no timer is ever started, -/
  once : interval = 0 ∨ Timer.clockLimit ≤ interval → (acts trace).length ≤ 1
  /-- and none after the end. -/
  afterwards : task.stage = .stopped ∨ task.stage = .crashed →
    ∀ more later, Runs routine task more later → acts more = []

section Keeps

variable {routine : Routine ε} {interval : Nat} {trace : List (Event ε)} {task : Task}
  (timed : ∀ now, routine.startTimer now = Timer.start now interval)
include timed

theorem steps_of_fails (stage : task.stage = .acted) (fails : Timer.Fails task.clock interval) :
    Step routine task (.noTimer task.clock) { task with stage := .crashed } ∧
      ∀ event later, Step routine task event later →
        later.stage = .acted ∨ later.stage = .crashed := by
  have start := (timed task.clock).trans (Timer.start_of_fails fails)
  refine ⟨.notStarted stage start, fun event later step => ?_⟩
  cases step with
  | ticked | told => exact .inl stage
  | failed | notStarted | overran => exact .inr rfl
  | actedFirst => exact .inl rfl
  | started _ started =>
    rw [start] at started
    contradiction
  | stopped _ listens =>
    rw [stage] at listens
    contradiction
  | began other | actedAgain other | fired other =>
    rw [stage] at other
    contradiction

theorem steps_of_not_fails (stage : task.stage = .acted)
    (able : ¬Timer.Fails task.clock interval) :
    Step routine task .started
      { task with stage := .waiting ⟨task.clock + interval, interval⟩ } ∧
      ∀ event later, Step routine task event later → later.stage ≠ .crashed := by
  have start := (timed task.clock).trans (Timer.start_of_not_fails able)
  refine ⟨.started stage start, fun event later step => ?_⟩
  cases step with
  | ticked | told =>
    change task.stage ≠ .crashed
    rw [stage]
    nofun
  | notStarted _ failed =>
    rw [start] at failed
    contradiction
  | stopped | began | actedFirst | actedAgain | started | fired => nofun
  | failed other | overran other =>
    rw [stage] at other
    contradiction

theorem Runs.keeps {now : Nat} (run : Runs routine (routine.start now) trace task) :
    Keeps routine interval trace task := by
  have tracked := run.tracked timed
  constructor
  · exact tracked.explained_at
  · exact tracked.explained_at
  · exact tracked.noTimer
  · intro early circumstances able
    exact exists_first able early
  · exact steps_of_fails timed
  · exact steps_of_not_fails timed
  · intro timer under circumstances able
    exact exists_acts circumstances able under
  · intro never
    exact tracked.once (Timer.fails_always_iff.mpr never)
  · intro ended more later further
    exact (further.ended ended).2

end Keeps

end Routine

/-! ### The two tasks -/

/-- Reports of one station. One that cannot be sent is logged. -/
def Transmitter.routine (transmitter : Transmitter Attempt) (settings : ReportSettings) :
    Routine (WallClock × CurrentReadings × Server) where
  delay := some settings.initialDelay
  act := fun (clock, readings, server) => discard (transmitter.report clock readings server)
  startTimer := settings.reportTimer

/-- Login tests. A record that cannot be written is logged. -/
def HealthMonitor.routine (stations : List Station) (settings : ReportSettings) :
    Routine (Instant × Server × HealthRegistry) where
  delay := none
  act := fun (clock, server, registry) =>
    (registry.update subsystem (check stations clock server).1).1
  startTimer := settings.healthTimer

/-- A report crashes only where there is a reading for it and the day's rain crashes. -/
theorem Transmitter.routine_act_eq_crash_iff {transmitter : Transmitter Attempt}
    {settings : ReportSettings} {clock : WallClock} {readings : CurrentReadings} {server : Server} :
    (transmitter.routine settings).act (clock, readings, server) = .error .crash ↔
      (readings.latest transmitter.station.name).isSome = true ∧ transmitter.RainCrashes clock := by
  change discard (transmitter.report clock readings server) = .error .crash ↔ _
  rw [report_eq]
  cases readings.latest transmitter.station.name with
  | none => exact ⟨nofun, fun crashes => nomatch crashes.1⟩
  | some reading =>
    rcases transmitter.dayRain_cases clock reading with ⟨crash, crashes⟩ | ⟨inches, computed, known⟩
    · simp only [crash]
      exact ⟨fun _ => ⟨rfl, crashes⟩, fun _ => rfl⟩
    · simp only [computed]
      refine ⟨nofun, fun ⟨_, source, attached, crash⟩ => ?_⟩
      simp only [ReportsRain, attached, crash] at known

theorem HealthMonitor.routine_act_ne_crash (stations : List Station) (settings : ReportSettings)
    (circumstances : Instant × Server × HealthRegistry) :
    (routine stations settings).act circumstances ≠ .error .crash := by
  obtain ⟨clock, server, ⟨records, file⟩⟩ := circumstances
  cases file <;> nofun

namespace ReportSettings

variable {entry : ReportingEntry} {settings : ReportSettings}

/-- Accepted settings have the times of their entry, and would be accepted with any others. -/
theorem ofEntry_eq_ok_iff : ofEntry entry = .ok settings ↔
    Text.trim entry.server ≠ "" ∧
      settings = ⟨Text.trim entry.server, entry.initialDelay, entry.reportInterval,
        entry.healthInterval, entry.transmitTimeout, entry.healthTimeout⟩ := by
  unfold ofEntry
  by_cases blank : Text.trim entry.server = ""
  · simp [blank]
  · simp [blank, eq_comm]

end ReportSettings

/-- Both tasks keep to the intervals of the entry wherever their timers can be started. No accepted
entry makes sure of that: it would be accepted with any other intervals as well. -/
theorem tasks_keep_accepted_intervals {entry : ReportingEntry} {settings : ReportSettings}
    (accepted : ReportSettings.ofEntry entry = .ok settings) :
    (∀ (transmitter : Transmitter Attempt) (now : Nat) trace task,
      Routine.Runs (transmitter.routine settings) ((transmitter.routine settings).start now) trace
        task →
      (transmitter.routine settings).Keeps entry.reportInterval trace task) ∧
    (∀ (stations : List Station) (now : Nat) trace task,
      Routine.Runs (HealthMonitor.routine stations settings)
        ((HealthMonitor.routine stations settings).start now) trace task →
      (HealthMonitor.routine stations settings).Keeps entry.healthInterval trace task) ∧
    (∀ (transmitter : Transmitter Attempt) clock readings server,
      (transmitter.routine settings).act (clock, readings, server) = .error .crash ↔
        (readings.latest transmitter.station.name).isSome = true ∧
          transmitter.RainCrashes clock) ∧
    (∀ stations circumstances,
      (HealthMonitor.routine stations settings).act circumstances ≠ .error .crash) ∧
    ∀ reportInterval healthInterval,
      ReportSettings.ofEntry { entry with reportInterval, healthInterval } =
        .ok { settings with reportInterval, healthInterval } := by
  obtain ⟨named, rfl⟩ := ReportSettings.ofEntry_eq_ok_iff.mp accepted
  refine ⟨fun transmitter now trace task run => ?_, fun stations now trace task run => ?_,
    fun transmitter clock readings server => ?_, fun stations circumstances => ?_, fun _ _ => ?_⟩
  · exact run.keeps fun _ => rfl
  · exact run.keeps fun _ => rfl
  · exact Transmitter.routine_act_eq_crash_iff
  · exact HealthMonitor.routine_act_ne_crash _ _ _
  · exact ReportSettings.ofEntry_eq_ok_iff.mpr ⟨named, rfl⟩

/-- At the default intervals both tasks come to a second act, after five minutes and one and a
half. -/
theorem tasks_keep_default_intervals :
    let settings : ReportSettings := ⟨"localhost:14580", 15, 300, 90, 3, 10⟩
    let transmitter : Transmitter Attempt := { station := {
      name := "backyard", callsign := "N0CALL-13", passcode := 13023, latitude := 49.5
      longitude := -72.75, symbolTable := '/', symbolCode := '_', comment := none } }
    let report := (⟨.fixed 0, .epoch⟩, CurrentReadings.ofStations ["backyard"], {})
    let test := (Instant.epoch, {}, {})
    ReportSettings.ofEntry { server := "localhost:14580" } = .ok settings ∧
    (∃ trace task, Routine.Runs (transmitter.routine settings) ⟨0, .delayed 15, false⟩ trace task ∧
      Routine.acts trace = [report, report] ∧ task = ⟨315, .waiting ⟨615, 300⟩, false⟩ ∧
      (transmitter.routine settings).Keeps 300 trace task) ∧
    ∃ trace task, Routine.Runs (HealthMonitor.routine [transmitter.station] settings)
        ⟨0, .acting none, false⟩ trace task ∧
      Routine.acts trace = [test, test] ∧ task = ⟨90, .waiting ⟨180, 90⟩, false⟩ ∧
      (HealthMonitor.routine [transmitter.station] settings).Keeps 90 trace task := by
  intro settings transmitter report test
  have accepted : ReportSettings.ofEntry { server := "localhost:14580" } = .ok settings := by
    decide +kernel
  have reports : (transmitter.routine settings).act report ≠ .error .crash := nofun
  have tests : (HealthMonitor.routine [transmitter.station] settings).act test ≠ .error .crash :=
    HealthMonitor.routine_act_ne_crash _ _ _
  obtain ⟨transmits, monitors, -⟩ := tasks_keep_accepted_intervals accepted
  refine ⟨accepted, ?_, ?_⟩
  · have fresh : Routine.Runs (transmitter.routine settings) ⟨0, .delayed 15, false⟩ []
        ⟨0, .delayed 15, false⟩ := .empty
    have delayed := fresh.next (.ticked (by decide : 0 + 15 < Timer.clockLimit))
    have began := delayed.next (.began rfl (.inl (Nat.le_refl _)))
    have first := began.next (.actedFirst rfl reports)
    have started := first.next (.started rfl rfl)
    have waited := started.next (.ticked (by decide : 15 + 300 < Timer.clockLimit))
    have fired := waited.next (.fired rfl (.inl (Nat.le_refl _)) (.inl rfl))
    have second := fired.next (.actedAgain rfl reports)
    exact ⟨_, _, second, rfl, rfl, transmits transmitter 0 _ _ second⟩
  · have first : Routine.Runs (HealthMonitor.routine [transmitter.station] settings)
        ⟨0, .acting none, false⟩ [.acted test] ⟨0, .acted, false⟩ :=
      Routine.Runs.empty.next (.actedFirst rfl tests)
    have started := first.next (.started rfl rfl)
    have waited := started.next (.ticked (by decide : 0 + 90 < Timer.clockLimit))
    have fired := waited.next (.fired rfl (.inl (Nat.le_refl _)) (.inl rfl))
    have second := fired.next (.actedAgain rfl tests)
    exact ⟨_, _, second, rfl, rfl, monitors _ 0 _ _ second⟩

/-- Intervals of zero are accepted. Both tasks crash right after their first act, which goes well, and
nobody has started a shutdown. -/
theorem accepted_zero_intervals_crash :
    let settings : ReportSettings := ⟨"localhost:14580", 15, 0, 0, 3, 10⟩
    let transmitter : Transmitter Attempt := { station := {
      name := "backyard", callsign := "N0CALL-13", passcode := 13023, latitude := 49.5
      longitude := -72.75, symbolTable := '/', symbolCode := '_', comment := none } }
    let report := (⟨.fixed 0, .epoch⟩, CurrentReadings.ofStations ["backyard"], {})
    let test := (Instant.epoch, {}, {})
    ReportSettings.ofEntry
        { server := "localhost:14580", reportInterval := 0, healthInterval := 0 } =
      .ok settings ∧
    Routine.Runs (transmitter.routine settings) ((transmitter.routine settings).start 0)
      [.ticked, .began, .acted report, .noTimer 15] ⟨15, .crashed, false⟩ ∧
    Routine.Runs (HealthMonitor.routine [transmitter.station] settings)
      ((HealthMonitor.routine [transmitter.station] settings).start 0)
      [.acted test, .noTimer 0] ⟨0, .crashed, false⟩ := by
  intro settings transmitter report test
  have reports : (transmitter.routine settings).act report ≠ .error .crash := nofun
  have tests : (HealthMonitor.routine [transmitter.station] settings).act test ≠ .error .crash :=
    HealthMonitor.routine_act_ne_crash _ _ _
  refine ⟨by decide +kernel, ?_, ?_⟩
  · have fresh : Routine.Runs (transmitter.routine settings) ⟨0, .delayed 15, false⟩ []
        ⟨0, .delayed 15, false⟩ := .empty
    have delayed := fresh.next (.ticked (by decide : 0 + 15 < Timer.clockLimit))
    have began := delayed.next (.began rfl (.inl (Nat.le_refl _)))
    have first := began.next (.actedFirst rfl reports)
    exact first.next (.notStarted rfl rfl)
  · have first : Routine.Runs (HealthMonitor.routine [transmitter.station] settings)
        ⟨0, .acting none, false⟩ [.acted test] ⟨0, .acted, false⟩ :=
      Routine.Runs.empty.next (.actedFirst rfl tests)
    exact first.next (.notStarted rfl rfl)

end WeatherRelay
