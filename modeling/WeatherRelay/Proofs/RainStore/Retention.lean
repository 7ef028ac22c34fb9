import Mathlib.Data.List.TakeWhile
import WeatherRelay.Proofs.RainStore.Recording

/-! What a rain store retains of the rows of a station.

The newest time and the retention give a cutoff. What is held is the list of all rows that ever
arrived, as far as it is not older than the cutoff: the rows without those before the first one
that is young enough, and the buckets from the cutoff on in full. Rows may come late or ahead of
the clock; the row that set the newest time always stays, so that nothing older is dropped but
by a newer one.
-/

set_option autoImplicit false

namespace WeatherRelay

/-- The sum of rows in the order in which they are given. -/
def rainSum (rows : List RainRow) : Binary32 := rows.foldl (fun total row => total + row.inches) 0

/-- The sum of rows as it is taken of rows alone: that of no rows is a negative zero. -/
def rawSum (rows : List RainRow) : Binary32 := .sum (rows.map RainRow.inches)

/-- The rows in the bucket up to `ending`. -/
def bucketRows (ending : Instant) (rows : List RainRow) : List RainRow :=
  rows.filter fun row => InBucket ending row.timestamp

/-- The rain of a bucket, where there is a row in it. -/
def bucketRain? (ending : Instant) (rows : List RainRow) : Option Binary32 :=
  match bucketRows ending rows with
  | [] => none
  | held => some (rainSum held)

theorem rainSum_append (rows : List RainRow) (row : RainRow) :
    rainSum (rows ++ [row]) = rainSum rows + row.inches := by
  simp [rainSum]

theorem bucketRain?_append_inside {ending : Instant} {rows : List RainRow} {row : RainRow}
    (inside : InBucket ending row.timestamp) :
    bucketRain? ending (rows ++ [row]) =
      some ((bucketRain? ending rows).getD 0 + row.inches) := by
  have appended : bucketRows ending (rows ++ [row]) = bucketRows ending rows ++ [row] := by
    simp [bucketRows, inside]
  unfold bucketRain?
  rw [appended]
  cases bucketRows ending rows with
  | nil => rfl
  | cons first rest => exact congrArg some (rainSum_append (first :: rest) row)

theorem bucketRain?_append_outside {ending : Instant} {rows : List RainRow} {row : RainRow}
    (outside : ¬ InBucket ending row.timestamp) :
    bucketRain? ending (rows ++ [row]) = bucketRain? ending rows := by
  have same : bucketRows ending (rows ++ [row]) = bucketRows ending rows := by
    simp [bucketRows, outside]
  simp only [bucketRain?, same]

theorem dropWhile_before_later {rows : List RainRow} {bound later : Instant}
    (order : bound ≤ later) :
    ((rows.dropWhile fun row => row.timestamp < bound).dropWhile fun row =>
      row.timestamp < later) = rows.dropWhile fun row => row.timestamp < later := by
  induction rows with
  | nil => rfl
  | cons row rest ih =>
    by_cases old : row.timestamp < bound
    · have older : row.timestamp < later := lt_of_lt_of_le old order
      simp only [List.dropWhile_cons, old, older, decide_true, if_true, ih]
    · simp only [List.dropWhile_cons, old, decide_false, Bool.false_eq_true, if_false]

-- Rows that would not be looked at anyway may be dropped before.
theorem filter_dropWhile {rows : List RainRow} {wanted old : RainRow → Bool}
    (young : ∀ row, wanted row = true → old row = false) :
    (rows.dropWhile old).filter wanted = rows.filter wanted := by
  induction rows with
  | nil => rfl
  | cons row rest ih =>
    cases dropped : old row with
    | false => rw [List.dropWhile_cons_of_neg (by simp [dropped])]
    | true =>
      have unwanted : wanted row = false := by
        cases looked : wanted row with
        | false => rfl
        | true => simp [young row looked] at dropped
      rw [List.dropWhile_cons_of_pos dropped, ih, List.filter_cons_of_neg (by simp [unwanted])]

namespace StationRain

/-- A station holds the rows that arrived as far as they are not older than a cutoff. -/
structure Covers (rain : StationRain) (rows : List RainRow) (cutoff : Instant) : Prop where
  rows_eq : rain.rows = rows.dropWhile fun row => row.timestamp < cutoff
  increasing : rain.buckets.Increasing
  ends : ∀ entry ∈ rain.buckets.entries, entry.1.EndsBucket
  buckets : ∀ ending, ending.EndsBucket → cutoff ≤ ending →
    rain.buckets.find? ending = bucketRain? ending rows

theorem covers_empty (cutoff : Instant) : Covers {} [] cutoff where
  rows_eq := rfl
  increasing := Table.increasing_empty
  ends := by simp [Table.empty]
  buckets := fun _ _ _ => rfl

section Add

variable {rain : StationRain} {rows : List RainRow} {cutoff bucket : Instant} {row : RainRow}

theorem ends_add (ends : ∀ entry ∈ rain.buckets.entries, entry.1.EndsBucket)
    (found : bucketEnd? row.timestamp = some bucket) :
    ∀ entry ∈ (rain.add row bucket).buckets.entries, entry.1.EndsBucket := by
  intro entry member
  rcases Table.mem_entries_insert member with rfl | earlier
  · exact (bucketEnd?_eq_some_iff.mp found).1
  · exact ends entry earlier

theorem buckets_add (found : bucketEnd? row.timestamp = some bucket)
    (buckets : ∀ ending, ending.EndsBucket → cutoff ≤ ending →
      rain.buckets.find? ending = bucketRain? ending rows) :
    ∀ ending, ending.EndsBucket → cutoff ≤ ending →
      (rain.add row bucket).buckets.find? ending = bucketRain? ending (rows ++ [row]) := by
  intro ending isEnd reached
  obtain ⟨bucketEnds, inside⟩ := bucketEnd?_eq_some_iff.mp found
  change (rain.buckets.insert bucket _).find? ending = _
  rw [Table.find?_insert]
  by_cases same : bucket = ending
  · subst same
    rw [if_pos rfl, bucketRain?_append_inside inside, buckets bucket isEnd reached]
  · have outside : ¬ InBucket ending row.timestamp :=
      fun other => same (inside.unique bucketEnds isEnd other)
    rw [if_neg same, bucketRain?_append_outside outside, buckets ending isEnd reached]

/-- A further row is covered, unless it is too old and no row before it is young enough. -/
theorem Covers.add (covers : rain.Covers rows cutoff)
    (found : bucketEnd? row.timestamp = some bucket)
    (young : ∃ other ∈ rows ++ [row], cutoff ≤ other.timestamp) :
    (rain.add row bucket).Covers (rows ++ [row]) cutoff := by
  refine ⟨?rows_eq, Table.increasing_insert covers.increasing _ _, ends_add covers.ends found,
    buckets_add found covers.buckets⟩
  change rain.rows ++ [row] = _
  rw [covers.rows_eq, List.dropWhile_append]
  split
  case isTrue gone =>
    -- All rows before were dropped, so the young one is the row itself.
    have allOld : ∀ other ∈ rows, other.timestamp < cutoff := by
      simpa [List.dropWhile_eq_nil_iff] using List.isEmpty_iff.mp gone
    obtain ⟨other, member, reached⟩ := young
    have notOld : ¬ row.timestamp < cutoff := by
      rcases List.mem_append.mp member with before | last
      · exact absurd reached (not_le_of_gt (allOld other before))
      · exact List.mem_singleton.mp last ▸ not_lt_of_ge reached
    rw [List.isEmpty_iff.mp gone]
    simp [notOld]
  case isFalse => rfl

end Add

theorem Covers.prune {rain : StationRain} {rows : List RainRow} {cutoff later : Instant}
    (covers : rain.Covers rows cutoff) (order : cutoff ≤ later) :
    (rain.prune later).Covers rows later where
  rows_eq := by
    change rain.rows.dropWhile _ = _
    rw [covers.rows_eq, dropWhile_before_later order]
  increasing := Table.increasing_dropBelow covers.increasing later
  ends := fun entry member => covers.ends entry (Table.mem_entries_dropBelow member)
  buckets := fun ending isEnd reached =>
    (Table.find?_dropBelow rain.buckets reached).trans
      (covers.buckets ending isEnd (le_trans order reached))

/-- What a station holds after its recordings, of which there are some. -/
structure Retains (rain : StationRain) (retention : Int) (recordings : List Recording)
    (newest cutoff : Instant) : Prop where
  noted : rain.newest = some newest
  newest_mem : newest ∈ recordings.map Recording.seen
  le_newest : ∀ seen ∈ recordings.map Recording.seen, seen ≤ newest
  retained : newest.shiftNanos? (-retention) = some cutoff
  covers : rain.Covers (recordings.map Recording.row) cutoff

theorem Covers.note {rain : StationRain} {rows : List RainRow} {cutoff : Instant}
    (covers : rain.Covers rows cutoff) (newest : Option Instant) :
    ({ rain with newest } : StationRain).Covers rows cutoff :=
  ⟨covers.rows_eq, covers.increasing, covers.ends, covers.buckets⟩

section Step

variable {retention : Int} {recording : Recording} {bucket : Instant} {rain after : StationRain}

theorem retains_first (nonneg : 0 ≤ retention)
    (found : bucketEnd? recording.reading.timestamp = some bucket)
    (expired : (({} : StationRain).add recording.row bucket).expire retention recording.seen =
      (.ok (), after)) :
    ∃ cutoff, after.Retains retention [recording] recording.seen cutoff := by
  rcases expire_ok expired with ⟨stays, _⟩ | ⟨_, cutoff, retained, rfl⟩
  · exact absurd stays (by simp [advances, add])
  · have young : cutoff ≤ recording.row.timestamp :=
      le_trans (Instant.le_of_shiftNanos?_back nonneg retained) recording.seen_le_timestamp
    have added : (({} : StationRain).add recording.row bucket).Covers ([] ++ [recording.row]) cutoff :=
      (covers_empty cutoff).add found ⟨recording.row, by simp, young⟩
    exact ⟨cutoff, rfl, by simp, by simp, retained, (added.note _).prune le_rfl⟩

-- The cutoff never moves back: it follows the newest time, and that only grows.
theorem Retains.next {recordings : List Recording} {newest cutoff : Instant}
    (retains : rain.Retains retention recordings newest cutoff) (nonneg : 0 ≤ retention)
    (earlierOrdinary : ∀ earlier ∈ recordings, earlier.Ordinary) (ordinary : recording.Ordinary)
    (found : bucketEnd? recording.reading.timestamp = some bucket)
    (expired : (rain.add recording.row bucket).expire retention recording.seen = (.ok (), after)) :
    ∃ newest cutoff, after.Retains retention (recordings ++ [recording]) newest cutoff := by
  obtain ⟨setter, setterMember, setterSeen⟩ := List.mem_map.mp retains.newest_mem
  have newestOrdinary : newest.Ordinary := setterSeen ▸ (earlierOrdinary setter setterMember).seen
  -- The row that set the newest time is young enough, whatever the further row is.
  have young : cutoff ≤ setter.row.timestamp :=
    le_trans (Instant.le_of_shiftNanos?_back nonneg retains.retained)
      (setterSeen ▸ setter.seen_le_timestamp)
  have added : (rain.add recording.row bucket).Covers
      ((recordings ++ [recording]).map Recording.row) cutoff := by
    rw [List.map_append]
    exact retains.covers.add found
      ⟨setter.row, List.mem_append_left _ (List.mem_map_of_mem setterMember), young⟩
  have advances_iff : (rain.add recording.row bucket).advances recording.seen = true ↔
      newest < recording.seen := by
    have noted : (rain.add recording.row bucket).newest = some newest := retains.noted
    simp [advances, noted]
  rcases expire_ok expired with ⟨stays, rfl⟩ | ⟨moves, later, retained, rfl⟩
  case inl =>
    have order : recording.seen ≤ newest :=
      le_of_not_gt fun newer => by simp [advances_iff.mpr newer] at stays
    refine ⟨newest, cutoff, retains.noted, ?_, ?_, retains.retained, added⟩
    · rw [List.map_append]
      exact List.mem_append_left _ retains.newest_mem
    · intro seen member
      rw [List.map_append, List.mem_append] at member
      rcases member with earlier | last
      · exact retains.le_newest seen earlier
      · exact (List.mem_singleton.mp last).symm ▸ order
  case inr =>
    have order : newest < recording.seen := advances_iff.mp moves
    have cutoffs : cutoff ≤ later :=
      Instant.shiftNanos?_le_of_le newestOrdinary ordinary.seen retains.retained retained order.le
    refine ⟨recording.seen, later, rfl, by simp, ?_, retained, (added.note _).prune cutoffs⟩
    intro seen member
    rw [List.map_append, List.mem_append] at member
    rcases member with earlier | last
    · exact le_trans (retains.le_newest seen earlier) order.le
    · exact (List.mem_singleton.mp last).le

end Step

end StationRain

namespace RainStore

/-- After a run a store knows nothing of a station without recordings, and retains of any other
what its retention says. -/
theorem Records.retains {retention : Int} (nonneg : 0 ≤ retention) {recordings : List Recording}
    {store : RainStore} (run : Records { retention } recordings store) (name : String)
    (ordinary : ∀ recording ∈ arrivals name recordings, recording.Ordinary) :
    (arrivals name recordings = [] ∧ store.stations.find? name = none) ∨
      ∃ rain newest cutoff, store.stations.find? name = some rain ∧
        rain.Retains retention (arrivals name recordings) newest cutoff := by
  induction run with
  | empty => exact .inl ⟨rfl, rfl⟩
  | @next store after earlier recording earlierRun recorded ih =>
    obtain ⟨bucket, rain, found, expired, _, here, elsewhere⟩ := record_ok recorded
    rw [earlierRun.retention_eq] at expired
    rw [arrivals_append] at ordinary ⊢
    by_cases named : recording.reading.stationName = name
    · subst named
      simp only [if_true] at ordinary ⊢
      have lastOrdinary := ordinary recording (by simp)
      right
      rcases ih fun other member => ordinary other (List.mem_append_left _ member) with
        ⟨first, absent⟩ | ⟨held, newest, cutoff, present, retains⟩
      · rw [station_of_find?_none absent] at expired
        obtain ⟨cutoff, retained⟩ := StationRain.retains_first nonneg found expired
        rw [first]
        exact ⟨rain, _, cutoff, here, retained⟩
      · rw [station_of_find? present] at expired
        obtain ⟨newest, cutoff, retained⟩ := retains.next nonneg
          (fun other member => ordinary other (List.mem_append_left _ member)) lastOrdinary found
          expired
        exact ⟨rain, newest, cutoff, here, retained⟩
    · rw [if_neg named] at ordinary ⊢
      rw [elsewhere name named]
      exact ih ordinary

theorem Records.increasing {retention : Int} {recordings : List Recording} {store : RainStore}
    (run : Records { retention } recordings store) (name : String) :
    (store.station name).buckets.Increasing := by
  induction run with
  | empty => exact Table.increasing_empty
  | @next store after earlier recording _ recorded ih =>
    obtain ⟨bucket, rain, _, expired, _, here, elsewhere⟩ := record_ok recorded
    by_cases named : recording.reading.stationName = name
    · subst named
      rw [station_of_find? here]
      rcases StationRain.expire_ok expired with ⟨_, rfl⟩ | ⟨_, cutoff, _, rfl⟩
      · exact Table.increasing_insert ih _ _
      · exact Table.increasing_dropBelow (Table.increasing_insert ih _ _) cutoff
    · unfold station at ih ⊢
      rw [elsewhere name named]
      exact ih

-- Where the newest time stays nothing is expired, and a late row may make an old bucket again.
theorem le_of_record_advanced {before store : RainStore} {last : Recording}
    (increasing : (before.station last.reading.stationName).buckets.Increasing)
    (recorded : before.record last.clock last.reading = (.ok (), store))
    (moved : (before.station last.reading.stationName).newest ≠
      (store.station last.reading.stationName).newest)
    {newest cutoff : Instant}
    (noted : (store.station last.reading.stationName).newest = some newest)
    (retained : newest.shiftNanos? (-before.retention) = some cutoff) :
    ∀ entry ∈ (store.station last.reading.stationName).buckets.entries, cutoff ≤ entry.1 := by
  obtain ⟨bucket, rain, _, expired, _, here, _⟩ := record_ok recorded
  rw [station_of_find? here] at moved noted ⊢
  rcases StationRain.expire_ok expired with ⟨_, rfl⟩ | ⟨_, oldest, expiry, rfl⟩
  · exact absurd rfl moved
  · have same : last.seen = newest := Option.some.inj noted
    rw [same, retained] at expiry
    cases Option.some.inj expiry
    exact fun entry member =>
      Table.le_of_mem_dropBelow (Table.increasing_insert increasing _ _) member

/-- The newest time, the rows and the buckets of a station after any run of recordings, and the
buckets that are gone right after one that changed the newest time. -/
theorem station_retains_arrivals {retention : Int} (nonneg : 0 ≤ retention)
    {recordings : List Recording} {store : RainStore}
    (run : Records { retention } recordings store) {name : String}
    (arrived : arrivals name recordings ≠ [])
    (ordinary : ∀ recording ∈ arrivals name recordings, recording.Ordinary) :
    ∃ newest cutoff,
      (store.station name).Retains retention (arrivals name recordings) newest cutoff ∧
      ((store.station name).rows.filter fun row => cutoff ≤ row.timestamp) =
        ((arrivedRows name recordings).filter fun row => cutoff ≤ row.timestamp) ∧
      ∀ (earlier : List Recording) (before : RainStore) (last : Recording),
        Records { retention } earlier before →
        before.record last.clock last.reading = (.ok (), store) →
        last.reading.stationName = name →
        (before.station name).newest ≠ (store.station name).newest →
        ∀ entry ∈ (store.station name).buckets.entries, cutoff ≤ entry.1 := by
  rcases run.retains nonneg name ordinary with
    ⟨nothing, _⟩ | ⟨rain, newest, cutoff, present, retains⟩
  · exact absurd nothing arrived
  rw [station_of_find? present]
  refine ⟨newest, cutoff, retains, ?_, ?_⟩
  · rw [retains.covers.rows_eq]
    exact filter_dropWhile fun row reached => by simpa using reached
  · intro earlier before last earlierRun recorded named moved
    subst named
    rw [← station_of_find? present] at moved ⊢
    have noted : (store.station last.reading.stationName).newest = some newest := by
      rw [station_of_find? present, retains.noted]
    exact le_of_record_advanced (earlierRun.increasing _) recorded moved noted
      (earlierRun.retention_eq ▸ retains.retained)

theorem station_retains_gaugedRun :
    ∃ newest cutoff store,
      Records { retention := 3600 * nanosPerSecond } Recording.gaugedRun store ∧
      (store.station "garden").rows.length = 3 ∧
      (store.station "garden").Retains (3600 * nanosPerSecond) Recording.gaugedRun newest cutoff := by
  obtain ⟨store, computed, three⟩ :
      ∃ store, Recording.gaugedRun.foldlM recorded? { retention := 3600 * nanosPerSecond } = some store ∧
        (store.station "garden").rows.length = 3 := ⟨_, rfl, rfl⟩
  have run := records_iff_foldlM.mpr computed
  have arrived : arrivals "garden" Recording.gaugedRun ≠ [] := by decide
  obtain ⟨newest, cutoff, retains, _⟩ :=
    station_retains_arrivals (by decide) run arrived (by decide)
  exact ⟨newest, cutoff, store, run, three, retains⟩

end RainStore

end WeatherRelay
