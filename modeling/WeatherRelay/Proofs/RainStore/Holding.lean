import WeatherRelay.Proofs.RainStore.DailyTotal
import WeatherRelay.Proofs.RainStore.Outcome

/-! What a station holds from some time on, whatever came of the recordings before.

Recordings may be refused or crash, and times may be leap seconds, so that a time to be retained is
not always behind the ones before it. All of them are before a bound, and from there on nothing is
missing.
-/

set_option autoImplicit false

namespace WeatherRelay

/-- Lists that agree on what is young enough agree on each part of that. -/
theorem filter_eq_of_recent {held rows : List RainRow} {wanted young : RainRow → Bool}
    (recent : held.filter young = rows.filter young) (sublist : held.Sublist rows)
    (subset : ∀ row ∈ rows, wanted row = true → young row = true) :
    held.filter wanted = rows.filter wanted := by
  have narrow {list : List RainRow} (part : list.Sublist rows) :
      (list.filter young).filter wanted = list.filter wanted := by
    rw [List.filter_filter]
    apply List.filter_congr
    intro row member
    cases looked : wanted row with
    | false => rfl
    | true => rw [subset row (part.mem member) looked, Bool.and_self]
  rw [← narrow sublist, recent, narrow (.refl _)]

/-- The rows of one station that were not refused, in the order of arrival. -/
def storedRows (name : String) (recordings : List Recording) : List RainRow :=
  (arrivedRows name recordings).filter fun row => (bucketEnd? row.timestamp).isSome

theorem bucketed_of_mem_storedRows {name : String} {recordings : List Recording} {row : RainRow}
    (member : row ∈ storedRows name recordings) :
    ∃ bucket, bucketEnd? row.timestamp = some bucket :=
  Option.isSome_iff_exists.mp (List.mem_filter.mp member).2

theorem storedRows_append (name : String) (earlier : List Recording) (recording : Recording) :
    storedRows name (earlier ++ [recording]) =
      if recording.reading.stationName = name ∧ (bucketEnd? recording.row.timestamp).isSome then
        storedRows name earlier ++ [recording.row]
      else storedRows name earlier := by
  unfold storedRows arrivedRows
  rw [arrivals_append]
  by_cases named : recording.reading.stationName = name
  · cases stored : (bucketEnd? recording.row.timestamp).isSome <;> simp [named, stored]
  · simp [named]

/-! ### What is held from a time on -/

namespace StationRain

/-- From a time on a station holds all rows that were stored, and their buckets in full. -/
structure HoldsFrom (rain : StationRain) (rows : List RainRow) (bound : Instant) : Prop where
  held : rain.rows.Sublist rows
  recent : (rain.rows.filter fun row => bound ≤ row.timestamp) =
    rows.filter fun row => bound ≤ row.timestamp
  increasing : rain.buckets.Increasing
  ends : ∀ entry ∈ rain.buckets.entries, entry.1.EndsBucket
  buckets : ∀ ending, ending.EndsBucket → bound ≤ ending →
    rain.buckets.find? ending = bucketRain? ending rows

section HoldsFrom

variable {rain : StationRain} {rows : List RainRow} {row : RainRow}
  {bound bucket cutoff midnight first : Instant}

theorem holdsFrom_empty (bound : Instant) : HoldsFrom {} [] bound where
  held := .slnil
  recent := rfl
  increasing := Table.increasing_empty
  ends := by simp [Table.empty]
  buckets _ _ _ := rfl

theorem HoldsFrom.add (holds : rain.HoldsFrom rows bound)
    (found : bucketEnd? row.timestamp = some bucket) :
    (rain.add row bucket).HoldsFrom (rows ++ [row]) bound where
  held := holds.held.append (.refl _)
  recent := by
    change (rain.rows ++ [row]).filter _ = _
    rw [List.filter_append, List.filter_append, holds.recent]
  increasing := Table.increasing_insert holds.increasing _ _
  ends := ends_add holds.ends found
  buckets := buckets_add found holds.buckets

theorem HoldsFrom.prune (holds : rain.HoldsFrom rows bound) (order : cutoff ≤ bound) :
    (rain.prune cutoff).HoldsFrom rows bound where
  held := (List.dropWhile_sublist _).trans holds.held
  recent := by
    change (rain.rows.dropWhile _).filter _ = _
    rw [filter_dropWhile, holds.recent]
    intro row young
    exact decide_eq_false (not_lt_of_ge (le_trans order (of_decide_eq_true young)))
  increasing := Table.increasing_dropBelow holds.increasing cutoff
  ends entry member := holds.ends entry (Table.mem_entries_dropBelow member)
  buckets ending isEnd reached :=
    (Table.find?_dropBelow rain.buckets (le_trans order reached)).trans
      (holds.buckets ending isEnd reached)

theorem HoldsFrom.note (holds : rain.HoldsFrom rows bound) (newest : Option Instant) :
    ({ rain with newest } : StationRain).HoldsFrom rows bound :=
  ⟨holds.held, holds.recent, holds.increasing, holds.ends, holds.buckets⟩

/-- The buckets of a station are those of one that dropped all rows before the time. -/
theorem HoldsFrom.covers (holds : rain.HoldsFrom rows bound) :
    ({ rain with rows := rows.dropWhile fun row => row.timestamp < bound } : StationRain).Covers
      rows bound :=
  ⟨rfl, holds.increasing, holds.ends, holds.buckets⟩

theorem HoldsFrom.expire_of_le {retention : Int} {seen : Instant} (holds : rain.HoldsFrom rows bound)
    (order : ∀ oldest, seen.shiftNanos? (-retention) = some oldest → oldest ≤ bound) :
    (rain.expire retention seen).2.HoldsFrom rows bound := by
  rcases rain.expire_cases retention seen with ⟨-, same⟩ | ⟨-, cutoff, moved, same⟩ | ⟨-, -, same⟩
  · exact same ▸ holds
  · exact same ▸ (holds.note (some seen)).prune (order cutoff moved)
  · exact same ▸ holds.note (some seen)

/-- All times up to the newest one of a station expire what is before a bound only. -/
def ExpiresBefore (rain : StationRain) (retention : Int) (bound : Instant) : Prop :=
  ∀ newest, rain.newest = some newest → ∀ seen cutoff, seen ≤ newest →
    seen.shiftNanos? (-retention) = some cutoff → cutoff ≤ bound

/-- A row that is stored. Times that were expired before are no later than the newest one, so that
the newest one tells for all of them. -/
theorem HoldsFrom.expire {retention : Int} {seen : Instant}
    (before : rain.ExpiresBefore retention bound → rain.HoldsFrom rows bound)
    (found : bucketEnd? row.timestamp = some bucket)
    (expires : ((rain.add row bucket).expire retention seen).2.ExpiresBefore retention bound) :
    ((rain.add row bucket).expire retention seen).2.HoldsFrom (rows ++ [row]) bound := by
  rcases (rain.add row bucket).expire_cases retention seen with ⟨-, same⟩ | moves
  · rw [same] at expires ⊢
    exact (before expires).add found
  · have advances : (rain.add row bucket).advances seen = true := moves.elim And.left And.left
    have upTo := expires seen (newest_expire retention advances)
    have earlier : rain.ExpiresBefore retention bound := by
      intro newest noted' other cutoff order
      have newer : newest < seen := by
        have known : (rain.add row bucket).newest = some newest := noted'
        simpa [StationRain.advances, known] using advances
      exact upTo other cutoff (le_trans order newer.le)
    exact ((before earlier).add found).expire_of_le fun oldest => upTo seen oldest le_rfl

/-- All times that were expired are before the end of the first bucket of a day, if the newest one
expires nothing of it. Leap seconds make a difference of three seconds at most. -/
theorem expiresBefore_first {retention : Int} (shifted : midnight.shift? bucketSeconds = some first)
    (midnightEnds : midnight.EndsBucket)
    (kept : ∀ newest cutoff, rain.newest = some newest →
      newest.shiftNanos? (-retention) = some cutoff → cutoff ≤ midnight)
    (inside : ∀ newest, rain.newest = some newest → newest.shiftNanos? (-retention) = none →
      0 ≤ retention) : rain.ExpiresBefore retention first := by
  intro newest noted seen cutoff order moved
  have cutoffNear := Instant.shiftNanos?_near moved
  have seenNear := Instant.position_near order
  have calendar := midnight.first_le
  rw [Instant.shift?_eq_some_iff midnightEnds.ordinary] at shifted
  cases moved' : newest.shiftNanos? (-retention) with
  | some oldest =>
    have oldestNear := Instant.shiftNanos?_near moved'
    have keptNear := Instant.position_near (kept newest oldest noted moved')
    simp only [Instant.le_iff, Instant.tick_eq, Instant.position, Instant.EndsBucket,
      bucketSeconds] at *
    omega
  | none =>
    have nonneg := inside newest noted moved'
    have outside : ¬ (newest.shiftNanos? (-retention)).isSome := by simp [moved']
    rw [Instant.shiftNanos?_back_isSome_iff nonneg] at outside
    simp only [Instant.le_iff, Instant.tick_eq, Instant.position, Instant.EndsBucket,
      bucketSeconds] at *
    omega

end HoldsFrom

theorem rows_expire_suffix (rain : StationRain) (retention : Int) (seen : Instant) :
    (rain.expire retention seen).2.rows <:+ rain.rows := by
  rcases rain.expire_cases retention seen with ⟨-, same⟩ | ⟨-, cutoff, -, same⟩ | ⟨-, -, same⟩
  · exact same ▸ List.suffix_rfl
  · exact same ▸ List.dropWhile_suffix _
  · exact same ▸ List.suffix_rfl

end StationRain

namespace RainStore

variable {retention : Int} {recordings : List Recording} {name : String}

section Concat

variable {earlier : List Recording} {recording : Recording}

theorem find?_afterAll_stored {bucket : Instant} (named : recording.reading.stationName = name)
    (found : bucketEnd? recording.row.timestamp = some bucket) :
    (({ retention } : RainStore).afterAll (earlier ++ [recording])).stations.find? name =
      some ((((({ retention } : RainStore).afterAll earlier).station name).add
        recording.row bucket).expire retention recording.seen).2 := by
  have span := (afterAll_sound { retention } (fun _ => Table.increasing_empty) earlier).1
  subst named
  rw [afterAll_concat, record_eq_of_bucketEnd? found]
  dsimp only [Prod.map]
  rw [Table.find?_insert, if_pos rfl, span]

theorem find?_afterAll_skipped (skipped : ¬ (recording.reading.stationName = name ∧
      (bucketEnd? recording.row.timestamp).isSome)) :
    (({ retention } : RainStore).afterAll (earlier ++ [recording])).stations.find? name =
      (({ retention } : RainStore).afterAll earlier).stations.find? name := by
  rw [afterAll_concat]
  cases found : bucketEnd? recording.row.timestamp with
  | none =>
    have found' : bucketEnd? recording.reading.timestamp = none := found
    simp only [record, found']
  | some bucket =>
    have other : recording.reading.stationName ≠ name := fun named =>
      skipped ⟨named, Option.isSome_of_eq_some found⟩
    rw [record_eq_of_bucketEnd? found]
    exact (Table.find?_insert _ _ _ _).trans (if_neg other)

theorem station_afterAll_skipped (skipped : ¬ (recording.reading.stationName = name ∧
      (bucketEnd? recording.row.timestamp).isSome)) :
    (({ retention } : RainStore).afterAll (earlier ++ [recording])).station name =
      (({ retention } : RainStore).afterAll earlier).station name := by
  unfold station
  rw [find?_afterAll_skipped skipped]

end Concat

/-- Whatever came of the recordings, a station holds all that is not expired. -/
theorem holdsFrom_afterAll {bound : Instant}
    (expires : ((({ retention } : RainStore).afterAll recordings).station name).ExpiresBefore
      retention bound) :
    ((({ retention } : RainStore).afterAll recordings).station name).HoldsFrom
      (storedRows name recordings) bound := by
  induction recordings using List.reverseRecOn with
  | nil => exact StationRain.holdsFrom_empty bound
  | append_singleton earlier recording ih =>
    rw [storedRows_append]
    split
    case isTrue stored =>
      obtain ⟨bucket, found⟩ := Option.isSome_iff_exists.mp stored.2
      rw [station_of_find? (find?_afterAll_stored stored.1 found)] at expires ⊢
      exact StationRain.HoldsFrom.expire ih found expires
    case isFalse skipped =>
      rw [station_afterAll_skipped skipped] at expires ⊢
      exact ih expires

/-- Where the retention before each time seen ends by a bound, nothing from there on is missing. -/
theorem holdsFrom_of_seen {bound : Instant}
    (order : ∀ recording ∈ arrivals name recordings, (bucketEnd? recording.row.timestamp).isSome →
      ∀ oldest, recording.seen.shiftNanos? (-retention) = some oldest → oldest ≤ bound) :
    ((({ retention } : RainStore).afterAll recordings).station name).HoldsFrom
      (storedRows name recordings) bound := by
  induction recordings using List.reverseRecOn with
  | nil => exact StationRain.holdsFrom_empty bound
  | append_singleton earlier recording ih =>
    have before := ih fun other member => order other (by
      rw [arrivals_append]
      split
      · exact List.mem_append_left _ member
      · exact member)
    rw [storedRows_append]
    split
    case isTrue stored =>
      obtain ⟨bucket, found⟩ := Option.isSome_iff_exists.mp stored.2
      have last := order recording (by simp [arrivals_append, stored.1]) stored.2
      rw [station_of_find? (find?_afterAll_stored stored.1 found)]
      exact (before.add found).expire_of_le last
    case isFalse skipped =>
      rw [station_afterAll_skipped skipped]
      exact before

/-- What a station holds is the latest that was stored, without a gap. -/
theorem rows_suffix_storedRows :
    ((({ retention } : RainStore).afterAll recordings).station name).rows <:+
      storedRows name recordings := by
  induction recordings using List.reverseRecOn with
  | nil => exact List.suffix_rfl
  | append_singleton earlier recording ih =>
    rw [storedRows_append]
    split
    case isTrue stored =>
      obtain ⟨bucket, found⟩ := Option.isSome_iff_exists.mp stored.2
      rw [station_of_find? (find?_afterAll_stored stored.1 found)]
      exact (StationRain.rows_expire_suffix _ _ _).trans (List.suffix_append_self_iff.mpr ih)
    case isFalse skipped =>
      rw [station_afterAll_skipped skipped]
      exact ih

theorem rows_sublist_storedRows :
    ((({ retention } : RainStore).afterAll recordings).station name).rows.Sublist
      (storedRows name recordings) :=
  rows_suffix_storedRows.sublist

/-- Whatever is stored makes a station known, and nothing else does. -/
theorem find?_afterAll_eq_none_iff :
    (({ retention } : RainStore).afterAll recordings).stations.find? name = none ↔
      storedRows name recordings = [] := by
  induction recordings using List.reverseRecOn with
  | nil => exact ⟨fun _ => rfl, fun _ => rfl⟩
  | append_singleton earlier recording ih =>
    rw [storedRows_append]
    split
    case isTrue stored =>
      obtain ⟨bucket, found⟩ := Option.isSome_iff_exists.mp stored.2
      rw [find?_afterAll_stored stored.1 found]
      simp
    case isFalse skipped =>
      rw [find?_afterAll_skipped skipped]
      exact ih

end RainStore

end WeatherRelay
