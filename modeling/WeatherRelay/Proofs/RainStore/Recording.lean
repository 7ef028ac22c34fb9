import Mathlib.Data.List.Induction
import WeatherRelay.Proofs.RainStore.Bucket
import WeatherRelay.Proofs.Table.Increasing

/-! Runs of a rain store: recordings one after the other, each of them successful.

What a successful recording does to the station it names is said here once, and that it does
nothing to any other.
-/

set_option autoImplicit false

namespace WeatherRelay

/-- A reading on its way into a store, and the clock at its arrival. -/
structure Recording where
  clock : Instant
  reading : Reading
  deriving DecidableEq

namespace Recording

def row (recording : Recording) : RainRow :=
  ⟨recording.reading.timestamp, recording.reading.rainIncremental⟩

/-- The time stamp as the store notes it, never later than the clock. -/
def seen (recording : Recording) : Instant :=
  Instant.earlier recording.reading.timestamp recording.clock

/-- Neither of its times is a leap second. -/
def Ordinary (recording : Recording) : Prop :=
  recording.reading.timestamp.Ordinary ∧ recording.clock.Ordinary

instance (recording : Recording) : Decidable recording.Ordinary :=
  inferInstanceAs (Decidable (_ ∧ _))

theorem seen_le_timestamp (recording : Recording) : recording.seen ≤ recording.row.timestamp :=
  Instant.earlier_le_left _ _

theorem Ordinary.seen {recording : Recording} (ordinary : recording.Ordinary) :
    recording.seen.Ordinary :=
  Instant.ordinary_earlier ordinary.1 ordinary.2

/-- A reading of a station without anything in it but rain, under a clock far ahead of it. -/
def gauge (name : String) (timestamp : Instant) (inches : Binary32) : Recording where
  clock := .onSecond 32503680000
  reading := { timestamp, stationName := name, rainIncremental := inches }

/-- Four rows, of which the third one comes more than an hour behind the first and the last one was
long under way. -/
def gaugedRun : List Recording :=
  [gauge "garden" (.onSecond 1714521630) 0.25, gauge "garden" (.onSecond 1714523430) 0.5,
    gauge "garden" (.onSecond 1714525830) 0.125, gauge "garden" (.onSecond 1714520000) 1]

end Recording

/-- The recordings of one station, in the order of arrival. -/
def arrivals (name : String) (recordings : List Recording) : List Recording :=
  recordings.filter fun recording => recording.reading.stationName = name

/-- The rows of one station, in the order of arrival. -/
def arrivedRows (name : String) (recordings : List Recording) : List RainRow :=
  (arrivals name recordings).map Recording.row

theorem arrivals_append (name : String) (earlier : List Recording) (recording : Recording) :
    arrivals name (earlier ++ [recording]) =
      if recording.reading.stationName = name then arrivals name earlier ++ [recording]
      else arrivals name earlier := by
  unfold arrivals
  rw [List.filter_append]
  split <;> simp_all

/-- Recordings one after the other, all of them successful. -/
inductive RainStore.Records (start : RainStore) : List Recording → RainStore → Prop where
  | empty : Records start [] start
  | next {store after : RainStore} {earlier : List Recording} {recording : Recording} :
      Records start earlier store →
      store.record recording.clock recording.reading = (.ok (), after) →
      Records start (earlier ++ [recording]) after

namespace StationRain

/-- What an expiry can do: leave all as it is, note the time and drop what is older than the
retention before it, or crash with the time noted. -/
theorem expire_cases (rain : StationRain) (retention : Int) (seen : Instant) :
    (rain.advances seen = false ∧ rain.expire retention seen = (.ok (), rain)) ∨
      (rain.advances seen = true ∧ ∃ cutoff, seen.shiftNanos? (-retention) = some cutoff ∧
        rain.expire retention seen =
          (.ok (), ({ rain with newest := some seen } : StationRain).prune cutoff)) ∨
      (rain.advances seen = true ∧ seen.shiftNanos? (-retention) = none ∧
        rain.expire retention seen = (.error .crash, { rain with newest := some seen })) := by
  unfold expire
  cases advances : rain.advances seen with
  | false => exact .inl ⟨rfl, rfl⟩
  | true =>
    cases moved : seen.shiftNanos? (-retention) with
    | some cutoff => exact .inr (.inl ⟨rfl, cutoff, rfl, rfl⟩)
    | none => exact .inr (.inr ⟨rfl, rfl, rfl⟩)

theorem newest_expire {rain : StationRain} {seen : Instant} (retention : Int)
    (advances : rain.advances seen = true) :
    (rain.expire retention seen).2.newest = some seen := by
  rcases rain.expire_cases retention seen with ⟨stays, -⟩ | ⟨-, cutoff, -, same⟩ | ⟨-, -, same⟩
  · rw [stays] at advances
    contradiction
  · rw [same]
    rfl
  · rw [same]

/-- A successful expiry leaves all as it is, or notes the time and drops what is older than the
retention before it. -/
theorem expire_ok {rain after : StationRain} {retention : Int} {seen : Instant}
    (expired : rain.expire retention seen = (.ok (), after)) :
    (rain.advances seen = false ∧ after = rain) ∨
      (rain.advances seen = true ∧ ∃ cutoff, seen.shiftNanos? (-retention) = some cutoff ∧
        after = { rain with newest := some seen }.prune cutoff) := by
  rcases rain.expire_cases retention seen with ⟨stays, same⟩ | ⟨advances, cutoff, moved, same⟩ |
    ⟨advances, outside, same⟩
  · exact .inl ⟨stays, (Prod.mk.inj (expired.symm.trans same)).2⟩
  · exact .inr ⟨advances, cutoff, moved, (Prod.mk.inj (expired.symm.trans same)).2⟩
  · have crashed := (Prod.mk.inj (expired.symm.trans same)).1
    contradiction

end StationRain

namespace RainStore

theorem station_of_find? {store : RainStore} {name : String} {rain : StationRain}
    (found : store.stations.find? name = some rain) : store.station name = rain := by
  simp [station, found]

/-- What a successful recording does to the stations. -/
theorem record_ok {store after : RainStore} {recording : Recording}
    (recorded : store.record recording.clock recording.reading = (.ok (), after)) :
    ∃ bucket rain, bucketEnd? recording.reading.timestamp = some bucket ∧
      ((store.station recording.reading.stationName).add recording.row bucket).expire
        store.retention recording.seen = (.ok (), rain) ∧
      after.retention = store.retention ∧
      after.stations.find? recording.reading.stationName = some rain ∧
      ∀ name, recording.reading.stationName ≠ name →
        after.stations.find? name = store.stations.find? name := by
  unfold record at recorded
  cases found : bucketEnd? recording.reading.timestamp with
  | none =>
    simp only [found, Prod.mk.injEq] at recorded
    exact absurd recorded.1 (by simp)
  | some bucket =>
    simp only [found, Prod.mk.injEq] at recorded
    obtain ⟨succeeded, rfl⟩ := recorded
    refine ⟨bucket, _, rfl, Prod.ext succeeded rfl, rfl, ?_, ?_⟩
    · exact (Table.find?_insert _ _ _ _).trans (if_pos rfl)
    · intro name other
      exact (Table.find?_insert _ _ _ _).trans (if_neg other)

theorem station_of_find?_none {store : RainStore} {name : String}
    (absent : store.stations.find? name = none) : store.station name = {} := by
  simp [station, absent]

/-- The store after one recording, if that is successful. -/
def recorded? (store : RainStore) (recording : Recording) : Option RainStore :=
  match store.record recording.clock recording.reading with
  | (.ok (), after) => some after
  | (.error _, _) => none

theorem recorded?_eq_some_iff {store after : RainStore} {recording : Recording} :
    store.recorded? recording = some after ↔
      store.record recording.clock recording.reading = (.ok (), after) := by
  unfold recorded?
  split
  · next same => simp [same]
  · next failed => simp [failed]

-- The runs of fixed recordings can be computed by this.
theorem records_iff_foldlM {start store : RainStore} {recordings : List Recording} :
    Records start recordings store ↔ recordings.foldlM recorded? start = some store := by
  constructor
  · intro run
    induction run with
    | empty => rfl
    | next _ recorded ih =>
      rw [List.foldlM_append, ih]
      simp [recorded?_eq_some_iff.mpr recorded]
  · intro computed
    induction recordings using List.reverseRecOn generalizing store with
    | nil =>
      cases Option.some.inj computed
      exact .empty
    | append_singleton earlier recording ih =>
      rw [List.foldlM_append] at computed
      obtain ⟨before, run, last⟩ := Option.bind_eq_some_iff.mp computed
      exact .next (ih run) (recorded?_eq_some_iff.mp (by simpa using last))

theorem Records.retention_eq {start store : RainStore} {recordings : List Recording}
    (run : Records start recordings store) : store.retention = start.retention := by
  induction run with
  | empty => rfl
  | next _ recorded ih =>
    obtain ⟨_, _, _, _, kept, _⟩ := record_ok recorded
    exact kept.trans ih

theorem Records.bucketed {start store : RainStore} {recordings : List Recording}
    (run : Records start recordings store) {name : String} {row : RainRow}
    (arrived : row ∈ arrivedRows name recordings) :
    ∃ bucket, bucketEnd? row.timestamp = some bucket := by
  induction run with
  | empty => simp [arrivedRows, arrivals] at arrived
  | @next _ _ earlier recording _ recorded ih =>
    unfold arrivedRows at ih arrived
    rw [arrivals_append] at arrived
    split at arrived
    case isTrue =>
      rw [List.map_append, List.mem_append] at arrived
      rcases arrived with before | last
      · exact ih before
      · obtain ⟨bucket, _, found, _⟩ := record_ok recorded
        exact ⟨bucket, (List.mem_singleton.mp last) ▸ found⟩
    case isFalse => exact ih arrived

end RainStore

end WeatherRelay
