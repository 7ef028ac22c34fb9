import WeatherRelay.Proofs.RainStore.Outcome
import WeatherRelay.Proofs.Transmitter.WireDiscipline

/-! Stations keep to themselves.

What is kept of a station, its newest reading and its rain, follows from the readings of that station
alone. Two histories that differ in other stations only are the same to it, and so are its reports.
-/

set_option autoImplicit false

namespace WeatherRelay

namespace RainStore

/-- Two stores that know the same of a station and would do the same with more of it. -/
structure SameFor (name : String) (left right : RainStore) : Prop where
  retention : left.retention = right.retention
  station : left.stations.find? name = right.stations.find? name

section SameFor

variable {name : String} {left middle right : RainStore}

theorem SameFor.symm (same : SameFor name left right) : SameFor name right left :=
  ⟨same.retention.symm, same.station.symm⟩

theorem SameFor.trans (first : SameFor name left middle) (second : SameFor name middle right) :
    SameFor name left right :=
  ⟨first.retention.trans second.retention, first.station.trans second.station⟩

/-- The recording of another station leaves a station as it is. -/
theorem sameFor_record_other (store : RainStore) {recording : Recording}
    (other : recording.reading.stationName ≠ name) :
    SameFor name (store.record recording.clock recording.reading).2 store := by
  cases found : bucketEnd? recording.row.timestamp with
  | none =>
    have found' : bucketEnd? recording.reading.timestamp = none := found
    simp only [record, found']
    exact ⟨rfl, rfl⟩
  | some bucket =>
    rw [record_eq_of_bucketEnd? found]
    exact ⟨rfl, (Table.find?_insert _ _ _ _).trans (if_neg other)⟩

theorem SameFor.record (same : SameFor name left right) {recording : Recording}
    (named : recording.reading.stationName = name) :
    SameFor name (left.record recording.clock recording.reading).2
      (right.record recording.clock recording.reading).2 := by
  subst named
  have known : left.station recording.reading.stationName =
      right.station recording.reading.stationName := by
    rw [RainStore.station, RainStore.station, same.station]
  cases found : bucketEnd? recording.row.timestamp with
  | none =>
    have found' : bucketEnd? recording.reading.timestamp = none := found
    simp only [RainStore.record, found']
    exact same
  | some bucket =>
    rw [record_eq_of_bucketEnd? found, record_eq_of_bucketEnd? found, known, same.retention]
    refine ⟨rfl, ?_⟩
    dsimp only [Prod.map]
    rw [Table.find?_insert, Table.find?_insert, if_pos rfl, if_pos rfl]

/-- The recordings of other stations might as well not have been made. -/
theorem sameFor_arrivals (store : RainStore) (name : String) (recordings : List Recording) :
    SameFor name (store.afterAll recordings) (store.afterAll (arrivals name recordings)) := by
  induction recordings using List.reverseRecOn with
  | nil => exact ⟨rfl, rfl⟩
  | append_singleton earlier recording ih =>
    rw [arrivals_append, afterAll_concat]
    by_cases named : recording.reading.stationName = name
    · rw [if_pos named, afterAll_concat]
      exact ih.record named
    · rw [if_neg named]
      exact (sameFor_record_other _ named).trans ih

theorem SameFor.periodRain (same : SameFor name left right) (since upTo : Instant) :
    left.periodRain name since upTo = right.periodRain name since upTo := by
  rw [RainStore.periodRain, RainStore.periodRain, same.station]

theorem SameFor.incrementalRain (same : SameFor name left right) (after : Option Instant)
    (notBefore : Instant) :
    left.incrementalRain name after notBefore = right.incrementalRain name after notBefore := by
  rw [RainStore.incrementalRain, RainStore.incrementalRain, same.station]

theorem SameFor.dailyRainfallBetween (same : SameFor name left right) (midnight now : Instant) :
    left.source.dailyRainfallBetween name midnight now =
      right.source.dailyRainfallBetween name midnight now := by
  simp only [RainSource.dailyRainfallBetween, source, same.periodRain, same.incrementalRain]

theorem SameFor.rainRateAt (same : SameFor name left right) (now : Instant) :
    left.source.rainRateAt name now = right.source.rainRateAt name now := by
  simp only [RainSource.rainRateAt, source, same.incrementalRain]

end SameFor

end RainStore

namespace CurrentReadings

/-- The readings of one station. -/
def readingsOf (name : String) (heard : List Reading) : List Reading :=
  heard.filter fun reading => reading.stationName = name

theorem slot_store (readings : CurrentReadings) (reading : Reading) (name : String) :
    (readings.store reading).2.slots.find? name =
      (readings.slots.find? name).map fun held =>
        if reading.stationName = name then some reading else held := by
  unfold store
  cases slot : readings.slots.find? reading.stationName with
  | none =>
    by_cases named : reading.stationName = name
    · subst named
      simp [slot]
    · simp [named]
  | some before =>
    dsimp only
    rw [Table.find?_insert]
    by_cases named : reading.stationName = name
    · subst named
      simp [slot]
    · simp [named]

/-- A slot keeps the last reading of its station, and there is no slot but those from the start. -/
theorem slot_storeAll (readings : CurrentReadings) (heard : List Reading) (name : String) :
    (readings.storeAll heard).2.slots.find? name =
      (readings.slots.find? name).map fun held => (readingsOf name heard).getLast?.or held := by
  induction heard generalizing readings with
  | nil => simp [storeAll, readingsOf]
  | cons reading rest ih =>
    simp only [storeAll, ih, slot_store, Option.map_map]
    congr 1
    funext held
    by_cases named : reading.stationName = name
    · simp only [Function.comp_apply, readingsOf, named, List.filter_cons, decide_true, if_true,
        List.getLast?_cons, Option.some_or]
      cases (rest.filter fun reading => reading.stationName = name).getLast? <;> rfl
    · simp [readingsOf, named]

end CurrentReadings

namespace Transmitter

/-- The line of a report, where there is a reading to report. -/
def line? (transmitter : Transmitter Attempt) (clock : WallClock) (readings : CurrentReadings) :
    Attempt (Option String) :=
  match readings.latest transmitter.station.name with
  | none => .ok none
  | some reading =>
    (transmitter.dayRain clock reading).map fun dayRain =>
      some (WeatherLine.render transmitter.station reading dayRain)

/-- The conversation over a line, if there is one. -/
def conclude (station : Station) (server : Server) : Option String → ReportOutcome
  | none => ⟨.ok .noReading, {}⟩
  | some line =>
    ⟨(Session.perform (send station server line) {}).1, (Session.perform (send station server line) {}).2⟩

/-- A report is its line, and what the server does with it. -/
theorem report_eq_line? (transmitter : Transmitter Attempt) (clock : WallClock)
    (readings : CurrentReadings) (server : Server) :
    transmitter.report clock readings server =
      (transmitter.line? clock readings).map (conclude transmitter.station server) := by
  rw [report_eq, line?]
  cases readings.latest transmitter.station.name with
  | none => rfl
  | some reading =>
    dsimp only
    cases transmitter.dayRain clock reading with
    | error setback => rfl
    | ok dayRain => rfl

/-- The transmitter of a station, with its day's rain out of a store or out of the readings. -/
def ofStore (station : Station) (store : RainStore) (computesRain : Bool) : Transmitter Attempt where
  station
  rain := if computesRain then some store.source else none

theorem line?_ofStore {station : Station} {left right : RainStore}
    {leftReadings rightReadings : CurrentReadings} (same : RainStore.SameFor station.name left right)
    (latest : leftReadings.latest station.name = rightReadings.latest station.name)
    (computesRain : Bool) (clock : WallClock) :
    (ofStore station left computesRain).line? clock leftReadings =
      (ofStore station right computesRain).line? clock rightReadings := by
  have rain : ∀ reading, (ofStore station left computesRain).dayRain clock reading =
      (ofStore station right computesRain).dayRain clock reading := by
    intro reading
    cases computesRain with
    | false => rfl
    | true =>
      simp only [dayRain, ofStore, if_true, RainSource.dailyRainfall, same.dailyRainfallBetween]
  unfold line?
  change (match leftReadings.latest station.name with | none => _ | some reading => _) =
    (match rightReadings.latest station.name with | none => _ | some reading => _)
  rw [latest]
  simp only [rain]
  rfl

end Transmitter

/-- All that is told of a station is the same: its newest reading, its rain, and its reports. -/
structure SameAnswers (name : String) (left right : RainStore)
    (leftReadings rightReadings : CurrentReadings) : Prop where
  latest : leftReadings.latest name = rightReadings.latest name
  periodRain : ∀ since upTo, left.periodRain name since upTo = right.periodRain name since upTo
  incrementalRain : ∀ after notBefore,
    left.incrementalRain name after notBefore = right.incrementalRain name after notBefore
  dailyRainfall : ∀ midnight now, left.source.dailyRainfallBetween name midnight now =
    right.source.dailyRainfallBetween name midnight now
  rainRate : ∀ now, left.source.rainRateAt name now = right.source.rainRateAt name now
  line : ∀ (station : Station) computesRain clock, station.name = name →
    (Transmitter.ofStore station left computesRain).line? clock leftReadings =
      (Transmitter.ofStore station right computesRain).line? clock rightReadings
  report : ∀ (station : Station) computesRain clock server, station.name = name →
    (Transmitter.ofStore station left computesRain).report clock leftReadings server =
      (Transmitter.ofStore station right computesRain).report clock rightReadings server

theorem sameAnswers_of_sameFor {name : String} {left right : RainStore}
    {leftReadings rightReadings : CurrentReadings} (same : RainStore.SameFor name left right)
    (latest : leftReadings.latest name = rightReadings.latest name) :
    SameAnswers name left right leftReadings rightReadings where
  latest := latest
  periodRain := same.periodRain
  incrementalRain := same.incrementalRain
  dailyRainfall := same.dailyRainfallBetween
  rainRate := same.rainRateAt
  line := by
    rintro station computesRain clock rfl
    exact Transmitter.line?_ofStore same latest computesRain clock
  report := by
    rintro station computesRain clock server rfl
    rw [Transmitter.report_eq_line?, Transmitter.report_eq_line?,
      Transmitter.line?_ofStore same latest computesRain clock]
    rfl

theorem readingsOf_map_reading (name : String) (recordings : List Recording) :
    CurrentReadings.readingsOf name (recordings.map Recording.reading) =
      (arrivals name recordings).map Recording.reading := by
  unfold CurrentReadings.readingsOf arrivals
  rw [List.filter_map]
  rfl

/-- Two histories of a store and of the slots, with the same recordings of one station and any others
in between. Nothing that is told of that station differs. -/
theorem answers_follow_own_readings (store : RainStore) (readings : CurrentReadings) {name : String}
    {left right : List Recording} (same : arrivals name left = arrivals name right) :
    SameAnswers name (store.afterAll left) (store.afterAll right)
      (readings.storeAll (left.map Recording.reading)).2
      (readings.storeAll (right.map Recording.reading)).2 := by
  apply sameAnswers_of_sameFor
  · have alone := (store.sameFor_arrivals name right).symm
    rw [← same] at alone
    exact (store.sameFor_arrivals name left).trans alone
  · unfold CurrentReadings.latest
    rw [CurrentReadings.slot_storeAll, CurrentReadings.slot_storeAll, readingsOf_map_reading,
      readingsOf_map_reading, same]

/-- A garden and a ridge, and the garden by itself. The ridge has rain ahead of all the garden's, and
no slot. -/
theorem answers_follow_gaugedRun :
    let ridge : List Recording := [.gauge "ridge" (.onSecond 1714530000) 3,
      .gauge "ridge" (.onSecond 1714521630) 1]
    let mixed := ridge ++ Recording.gaugedRun ++ ridge
    let store : RainStore := .ofRetention 3600
    let readings := CurrentReadings.ofStations ["garden"]
    arrivals "garden" mixed = arrivals "garden" Recording.gaugedRun ∧
      (store.afterAll mixed).length "ridge" = 4 ∧
      SameAnswers "garden" (store.afterAll mixed) (store.afterAll Recording.gaugedRun)
        (readings.storeAll (mixed.map Recording.reading)).2
        (readings.storeAll (Recording.gaugedRun.map Recording.reading)).2 := by
  intro ridge mixed store readings
  have same : arrivals "garden" mixed = arrivals "garden" Recording.gaugedRun := by rfl
  exact ⟨same, by decide +kernel, answers_follow_own_readings store readings same⟩

end WeatherRelay
