import WeatherRelay.Consumer
import WeatherRelay.Proofs.RainStore.Retention

/-! What comes of a recording, on every store that recordings can lead to.

A reading behind the last bucket of the calendar is refused before anything is changed, and any
other one is kept. Only when it is kept the oldest time to be retained is looked up. Where that
would be before the calendar the recording crashes, with the reading kept and nothing expired.
-/

set_option autoImplicit false

namespace WeatherRelay

/-- A time before the oldest one to be retained, where there is a bound. -/
def isExpired (oldest : Option Instant) (time : Instant) : Bool := oldest.any fun bound => time < bound

namespace StationRain

/-- The newest time of a station once another one was seen. -/
def newestWith (rain : StationRain) (seen : Instant) : Instant :=
  match rain.newest with
  | none => seen
  | some newest => Instant.later newest seen

/-- A station before and after a recording that it keeps: the row is appended, its bucket is
increased, the newest time is noted, and what is expired is dropped and nothing else. -/
structure Keeps (before after : StationRain) (recording : Recording) (bucket : Instant)
    (oldest : Option Instant) : Prop where
  rows : after.rows =
    (before.rows.dropWhile fun row => isExpired oldest row.timestamp) ++ [recording.row]
  increased : after.buckets.find? bucket =
    some ((before.buckets.find? bucket).getD 0 + recording.row.inches)
  others : ∀ ending, ending ≠ bucket → after.buckets.find? ending =
    if isExpired oldest ending then none else before.buckets.find? ending
  newest : after.newest = some (before.newestWith recording.seen)

theorem increasing_expire {rain : StationRain} (increasing : rain.buckets.Increasing)
    (retention : Int) (seen : Instant) :
    (rain.expire retention seen).2.buckets.Increasing := by
  rcases rain.expire_cases retention seen with ⟨-, same⟩ | ⟨-, cutoff, -, same⟩ | ⟨-, -, same⟩
  · exact same ▸ increasing
  · exact same ▸ Table.increasing_dropBelow increasing cutoff
  · exact same ▸ increasing

theorem newestWith_of_advances {rain : StationRain} {seen : Instant}
    (advances : rain.advances seen = true) : rain.newestWith seen = seen := by
  unfold StationRain.advances at advances
  unfold newestWith
  cases noted : rain.newest with
  | none => rfl
  | some newest =>
    rw [noted] at advances
    exact if_pos (le_of_lt (of_decide_eq_true advances))

theorem newest_of_not_advances {rain : StationRain} {seen : Instant}
    (stays : rain.advances seen = false) : rain.newest = some (rain.newestWith seen) := by
  unfold StationRain.advances at stays
  unfold newestWith
  cases noted : rain.newest with
  | none => simp [noted] at stays
  | some newest =>
    rw [noted] at stays
    have order : seen ≤ newest := le_of_not_gt (of_decide_eq_false stays)
    change some newest = some (if newest ≤ seen then seen else newest)
    split
    · next above => rw [le_antisymm above order]
    · rfl

section Keeping

variable {rain : StationRain} {recording : Recording} {bucket : Instant}

theorem find?_add (rain : StationRain) (row : RainRow) (bucket ending : Instant) :
    (rain.add row bucket).buckets.find? ending =
      if bucket = ending then some ((rain.buckets.find? bucket).getD 0 + row.inches)
      else rain.buckets.find? ending :=
  Table.find?_insert _ _ _ _

theorem keeps_add {newest : Option Instant}
    (noted : newest = some (rain.newestWith recording.seen)) :
    rain.Keeps { rain.add recording.row bucket with newest } recording bucket none where
  rows := by
    have all : (rain.rows.dropWhile fun _ => false) = rain.rows := by
      cases rain.rows <;> rfl
    exact congrArg (· ++ [recording.row]) all.symm
  increased := (find?_add rain _ _ _).trans (if_pos rfl)
  others := fun ending other => (find?_add rain _ _ _).trans (if_neg (Ne.symm other))
  newest := noted

-- The oldest time is no later than the time seen, so neither the row nor its bucket is expired.
theorem keeps_prune {oldest : Instant} (increasing : rain.buckets.Increasing)
    (found : bucketEnd? recording.row.timestamp = some bucket) (reached : oldest ≤ recording.seen)
    (noted : rain.newestWith recording.seen = recording.seen) :
    rain.Keeps
      ({ rain.add recording.row bucket with newest := some recording.seen }.prune oldest)
      recording bucket (some oldest) where
  rows := by
    have young : ¬ recording.row.timestamp < oldest :=
      not_lt_of_ge (le_trans reached recording.seen_le_timestamp)
    change (rain.rows ++ [recording.row]).dropWhile _ = _
    rw [List.dropWhile_append]
    split
    case isTrue gone =>
      have nothing : (rain.rows.dropWhile fun row => isExpired (some oldest) row.timestamp) = [] :=
        List.isEmpty_iff.mp gone
      rw [nothing]
      simp [young]
    case isFalse => rfl
  increased := by
    have inside := (bucketEnd?_eq_some_iff.mp found).2.2
    have young : oldest ≤ bucket :=
      le_trans (le_trans reached recording.seen_le_timestamp) inside
    change ((rain.add recording.row bucket).buckets.dropBelow oldest).find? bucket = _
    rw [Table.find?_dropBelow _ young, find?_add, if_pos rfl]
  others := by
    intro ending other
    change ((rain.add recording.row bucket).buckets.dropBelow oldest).find? ending = _
    have added : (rain.add recording.row bucket).buckets.Increasing :=
      Table.increasing_insert increasing _ _
    by_cases old : ending < oldest
    · have expired : isExpired (some oldest) ending = true := decide_eq_true old
      rw [Table.find?_dropBelow_of_lt added old, expired, if_pos rfl]
    · have kept : isExpired (some oldest) ending = false := decide_eq_false old
      rw [Table.find?_dropBelow _ (le_of_not_gt old), find?_add, if_neg (Ne.symm other), kept,
        if_neg Bool.false_ne_true]
  newest := congrArg some noted.symm

end Keeping

end StationRain

namespace RainStore

/-- A store before and after a recording that it keeps. No other station is touched. -/
structure Keeps (before after : RainStore) (recording : Recording) (oldest : Option Instant) :
    Prop where
  retention : after.retention = before.retention
  elsewhere : ∀ name, name ≠ recording.reading.stationName →
    after.stations.find? name = before.stations.find? name
  here : ∃ bucket, bucketEnd? recording.row.timestamp = some bucket ∧
    (before.station recording.reading.stationName).Keeps
      (after.station recording.reading.stationName) recording bucket oldest

/-- The retention before the time of a recording begins before the calendar does. -/
def ReachesBeforeCalendar (store : RainStore) (recording : Recording) : Prop :=
  recording.seen.position - store.retention < -8334601228800 * 1000000000

/-- The time of a recording is newer than all that its station has seen. -/
def Advances (store : RainStore) (recording : Recording) : Prop :=
  ∀ newest, (store.station recording.reading.stationName).newest = some newest →
    newest < recording.seen

/-- What may come of a recording. -/
inductive Outcome (store : RainStore) (recording : Recording) : Attempt Unit → RainStore → Prop where
  | refused : lastBucketEnd < recording.row.timestamp →
      Outcome store recording
        (.error (.failure (.timestampOutOfRange recording.row.timestamp))) store
  /-- No new time was seen, so that nothing is expired. -/
  | late {after : RainStore} : recording.row.timestamp ≤ lastBucketEnd →
      ¬ store.Advances recording → store.Keeps after recording none →
      Outcome store recording (.ok ()) after
  | newest {after : RainStore} {oldest : Instant} : recording.row.timestamp ≤ lastBucketEnd →
      store.Advances recording → recording.seen.shiftNanos? (-store.retention) = some oldest →
      store.Keeps after recording (some oldest) → Outcome store recording (.ok ()) after
  | crashed {after : RainStore} : recording.row.timestamp ≤ lastBucketEnd →
      store.Advances recording → store.ReachesBeforeCalendar recording →
      store.Keeps after recording none → Outcome store recording (.error .crash) after

section Outcome

variable {store : RainStore} {recording : Recording}

theorem advances_iff : store.Advances recording ↔
    (store.station recording.reading.stationName).advances recording.seen = true := by
  unfold Advances StationRain.advances
  cases (store.station recording.reading.stationName).newest with
  | none => simp
  | some newest => simp

theorem reachesBeforeCalendar_iff (nonneg : 0 ≤ store.retention) :
    store.ReachesBeforeCalendar recording ↔
      recording.seen.shiftNanos? (-store.retention) = none := by
  rw [← Option.not_isSome_iff_eq_none, Instant.shiftNanos?_back_isSome_iff nonneg,
    ReachesBeforeCalendar, Int.not_le]

theorem station_insert (store : RainStore) (name other : String) (rain : StationRain) :
    ({ store with stations := store.stations.insert name rain } : RainStore).station other =
      if name = other then rain else store.station other := by
  unfold station
  rw [Table.find?_insert]
  split <;> rfl

theorem keeps_insert {rain : StationRain} {bucket : Instant} {oldest : Option Instant}
    (found : bucketEnd? recording.row.timestamp = some bucket)
    (keeps : (store.station recording.reading.stationName).Keeps rain recording bucket oldest) :
    store.Keeps
      { store with stations := store.stations.insert recording.reading.stationName rain }
      recording oldest where
  retention := rfl
  elsewhere := fun name other => (Table.find?_insert _ _ _ _).trans (if_neg (Ne.symm other))
  here := by
    refine ⟨bucket, found, ?_⟩
    rw [station_insert, if_pos rfl]
    exact keeps

theorem record_eq_of_bucketEnd? {bucket : Instant}
    (found : bucketEnd? recording.row.timestamp = some bucket) :
    store.record recording.clock recording.reading =
      (((store.station recording.reading.stationName).add recording.row bucket).expire
          store.retention recording.seen).map id fun rain =>
        { store with stations := store.stations.insert recording.reading.stationName rain } := by
  have found' : bucketEnd? recording.reading.timestamp = some bucket := found
  simp only [record, found']
  rfl

theorem outcome_record (nonneg : 0 ≤ store.retention)
    (increasing : (store.station recording.reading.stationName).buckets.Increasing) :
    store.Outcome recording (store.record recording.clock recording.reading).1
      (store.record recording.clock recording.reading).2 := by
  cases found : bucketEnd? recording.row.timestamp with
  | none =>
    have behind : lastBucketEnd < recording.row.timestamp := by
      rw [← not_le, ← bucketEnd?_isSome_iff, found]
      simp
    have refused : store.record recording.clock recording.reading =
        (.error (.failure (.timestampOutOfRange recording.row.timestamp)), store) := by
      have found' : bucketEnd? recording.reading.timestamp = none := found
      simp only [record, found']
      rfl
    rw [refused]
    exact .refused behind
  | some bucket =>
    have within : recording.row.timestamp ≤ lastBucketEnd :=
      bucketEnd?_isSome_iff.mp (Option.isSome_of_eq_some found)
    rw [record_eq_of_bucketEnd? found]
    rcases ((store.station recording.reading.stationName).add recording.row bucket).expire_cases
      store.retention recording.seen with ⟨stays, same⟩ | ⟨advances, oldest, moved, same⟩ |
        ⟨advances, outside, same⟩
    · have late : ¬ store.Advances recording := fun moves =>
        absurd (stays.symm.trans (advances_iff.mp moves)) (by decide)
      rw [same]
      refine .late within late (keeps_insert found ?_)
      exact StationRain.keeps_add (StationRain.newest_of_not_advances stays)
    · rw [same]
      refine .newest within (advances_iff.mpr advances) moved (keeps_insert found ?_)
      exact StationRain.keeps_prune increasing found (Instant.le_of_shiftNanos?_back nonneg moved)
        (StationRain.newestWith_of_advances advances)
    · rw [same]
      refine .crashed within (advances_iff.mpr advances)
        ((reachesBeforeCalendar_iff nonneg).mpr outside) (keeps_insert found ?_)
      exact StationRain.keeps_add
        (congrArg some (StationRain.newestWith_of_advances advances).symm)

end Outcome

/-- The store after recordings one after the other, whatever comes of each of them. -/
def afterAll (start : RainStore) (recordings : List Recording) : RainStore :=
  recordings.foldl (fun store recording => (store.record recording.clock recording.reading).2) start

theorem afterAll_concat (start : RainStore) (earlier : List Recording) (recording : Recording) :
    start.afterAll (earlier ++ [recording]) =
      ((start.afterAll earlier).record recording.clock recording.reading).2 := by
  simp [afterAll]

-- A crash leaves a store that is as good as any other.
theorem afterAll_sound (start : RainStore)
    (increasing : ∀ name, (start.station name).buckets.Increasing) (recordings : List Recording) :
    (start.afterAll recordings).retention = start.retention ∧
      ∀ name, ((start.afterAll recordings).station name).buckets.Increasing := by
  induction recordings using List.reverseRecOn with
  | nil => exact ⟨rfl, increasing⟩
  | append_singleton earlier recording ih =>
    rw [afterAll_concat]
    generalize start.afterAll earlier = store at ih
    obtain ⟨kept, sound⟩ := ih
    cases found : bucketEnd? recording.row.timestamp with
    | none =>
      have found' : bucketEnd? recording.reading.timestamp = none := found
      simp only [record, found']
      exact ⟨kept, sound⟩
    | some bucket =>
      rw [record_eq_of_bucketEnd? found]
      refine ⟨kept, fun name => ?_⟩
      change (({ store with stations := store.stations.insert _ _ } : RainStore).station
        name).buckets.Increasing
      rw [station_insert]
      split
      · exact StationRain.increasing_expire (Table.increasing_insert (sound _) _ _) _ _
      · exact sound name

/-- A recording crashes exactly where a newer time than any before is seen less than the retention
after the beginning of the calendar. -/
theorem Outcome.crash_iff {store after : RainStore} {recording : Recording}
    {outcome : Attempt Unit} (nonneg : 0 ≤ store.retention)
    (comes : store.Outcome recording outcome after) :
    outcome = .error .crash ↔ recording.row.timestamp ≤ lastBucketEnd ∧
      store.Advances recording ∧ store.ReachesBeforeCalendar recording := by
  cases comes with
  | refused behind => simp [not_le_of_gt behind]
  | late _ stays _ => simp [stays]
  | newest _ _ moved _ => simp [reachesBeforeCalendar_iff nonneg, moved]
  | crashed within moves before _ => simp [within, moves, before]

/-- Whatever was recorded before, and whatever became of it: a recording is refused with the store
unchanged, or keeps its reading and expires what is too old. The one case in between is a crash,
where the retention reaches back before the calendar: the reading is kept and nothing expires. -/
theorem record_refuses_keeps_or_crashes (hours : Nat) (earlier : List Recording)
    (recording : Recording) :
    ((ofRetention (hours * 3600)).afterAll earlier).Outcome recording
        (((ofRetention (hours * 3600)).afterAll earlier).record recording.clock recording.reading).1
        (((ofRetention (hours * 3600)).afterAll earlier).record recording.clock
          recording.reading).2 ∧
      ((((ofRetention (hours * 3600)).afterAll earlier).record recording.clock
          recording.reading).1 = .error .crash ↔
        recording.row.timestamp ≤ lastBucketEnd ∧
        ((ofRetention (hours * 3600)).afterAll earlier).Advances recording ∧
        recording.seen.position - hours * 3600 * 1000000000 < -8334601228800 * 1000000000) := by
  obtain ⟨retention, increasing⟩ :=
    afterAll_sound (ofRetention (hours * 3600)) (fun _ => Table.increasing_empty) earlier
  generalize (ofRetention (hours * 3600)).afterAll earlier = store at *
  have span : store.retention = hours * 3600 * 1000000000 := retention
  have nonneg : 0 ≤ store.retention := by
    rw [span]
    omega
  have outcome : store.Outcome recording _ _ := outcome_record nonneg (increasing _)
  refine ⟨outcome, ?_⟩
  rw [outcome.crash_iff nonneg, ReachesBeforeCalendar, span]

/-- With a retention of nearly half a million years, which is no more than a configuration allows,
the first reading of a station crashes. It is kept all the same, and the consumer is gone before the
reading of the other station comes to its turn. -/
theorem record_crashes_under_long_retention :
    let store := ofRetention (4294967295 * 3600)
    let recording : Recording := .gauge "garden" (.onSecond 1717200000) 1
    let other : Recording := .gauge "ridge" (.onSecond 1717203600) 2
    (store.record recording.clock recording.reading).1 = .error .crash ∧
      (store.record recording.clock recording.reading).2 ≠ store ∧
      (store.record recording.clock recording.reading).2.length "garden" = 1 ∧
      ((Consumer.memory recording.clock).drain [recording.reading, other.reading] store).1 = false ∧
      ((Consumer.memory recording.clock).drain [recording.reading, other.reading]
        store).2.2.length "ridge" = 0 := by
  decide +kernel

end RainStore

end WeatherRelay
