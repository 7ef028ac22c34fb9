import WeatherRelay.Proofs.RainStore.ExactSum

/-! The rain since midnight, taken from buckets and rows, is that of the rows alone.

The buckets of the day answer for every row up to the end of the last of them. A row behind it is
in no bucket that has ended, so it is less than five minutes old and within the trailing hour.
-/

set_option autoImplicit false

namespace WeatherRelay

/-- The rows after `midnight`, up to and with `now`. -/
def windowRows (midnight now : Instant) (rows : List RainRow) : List RainRow :=
  rows.filter fun row => midnight < row.timestamp && row.timestamp ≤ now

/-- Whether a row is in one of some buckets. -/
def inAny (endings : List Instant) (row : RainRow) : Bool :=
  endings.any fun ending => InBucket ending row.timestamp

theorem inAny_iff {endings : List Instant} {row : RainRow} :
    inAny endings row = true ↔ ∃ ending ∈ endings, InBucket ending row.timestamp := by
  simp [inAny]

-- No row is in two buckets, so nothing is counted twice when the buckets are added up.
theorem sum_bucketRows {endings : List Instant} (rows : List RainRow)
    (increasing : endings.Pairwise (· < ·)) (ends : ∀ ending ∈ endings, ending.EndsBucket) :
    (endings.map fun ending => rainAmount (bucketRows ending rows)).sum =
      rainAmount (rows.filter (inAny endings)) := by
  induction endings with
  | nil =>
    have nowhere : rows.filter (inAny []) = [] := by simp [inAny]
    simp [nowhere, rainAmount]
  | cons ending rest ih =>
    obtain ⟨before, restIncreasing⟩ := List.pairwise_cons.mp increasing
    have restEnds : ∀ other ∈ rest, other.EndsBucket :=
      fun other member => ends other (List.mem_cons_of_mem _ member)
    rw [List.map_cons, List.sum_cons, ih restIncreasing restEnds]
    apply rainAmount_filter_add
    · exact fun row _ => List.any_cons
    · intro row _ inside
      rw [← Bool.not_eq_true, inAny_iff]
      rintro ⟨other, member, alsoInside⟩
      have same := (of_decide_eq_true inside).unique (ends ending List.mem_cons_self)
        (restEnds other member) alsoInside
      exact absurd (before other member) (same ▸ lt_irrefl ending)

namespace StationRain

/-- The buckets from one end to another. -/
def bucketsWithin (rain : StationRain) (first last : Instant) : List (Instant × Binary32) :=
  rain.buckets.entries.filter fun (ending, _) => first ≤ ending && ending ≤ last

theorem foldl_period (entries : List (Instant × Binary32)) :
    entries.foldl (fun (period : PeriodRain) (ending, inches) =>
        ⟨period.total + inches, some ending⟩) {} =
      ⟨entries.foldl (fun total entry => total + entry.2) 0,
        (entries.map Prod.fst).getLast?⟩ := by
  induction entries using List.reverseRecOn with
  | nil => rfl
  | append_singleton entries entry ih => simp [List.foldl_append, ih]

theorem periodRain_eq {rain : StationRain} {since upTo first : Instant}
    (shifted : since.shift? bucketSeconds = some first) :
    rain.periodRain since upTo =
      .ok ⟨(rain.bucketsWithin first upTo).foldl (fun total entry => total + entry.2) 0,
        ((rain.bucketsWithin first upTo).map Prod.fst).getLast?⟩ := by
  unfold periodRain
  rw [shifted]
  exact congrArg Except.ok (foldl_period _)

theorem periodRain_crash {rain : StationRain} {since upTo : Instant}
    (outside : since.shift? bucketSeconds = none) :
    rain.periodRain since upTo = .error .crash := by
  unfold periodRain
  rw [outside]
  rfl

/-- Whether a row is one of those added after the buckets. -/
def trails (after : Option Instant) (notBefore : Instant) (row : RainRow) : Bool :=
  after.all (· < row.timestamp) && notBefore ≤ row.timestamp

theorem incrementalRain_eq (rain : StationRain) (after : Option Instant) (notBefore : Instant) :
    rain.incrementalRain after notBefore = rawSum (rain.rows.filter (trails after notBefore)) := by
  cases after <;> rfl

end StationRain

theorem all_getLast?_iff {endings : List Instant} (increasing : endings.Pairwise (· < ·))
    (timestamp : Instant) :
    endings.getLast?.all (· < timestamp) = true ↔ ∀ ending ∈ endings, ending < timestamp := by
  rcases endings.eq_nil_or_concat' with rfl | ⟨earlier, last, rfl⟩
  · simp
  · have before := (List.pairwise_append.mp increasing).2.2
    simp only [List.getLast?_append, List.getLast?_singleton,
      Option.some_or, Option.all_some, decide_eq_true_eq, List.mem_append, List.mem_singleton]
    constructor
    · rintro behind ending (member | rfl)
      · exact lt_trans (before ending member last (List.mem_singleton.mpr rfl)) behind
      · exact behind
    · exact fun behind => behind last (.inr rfl)

-- Five minutes after midnight is where the first bucket of the day ends.
theorem Instant.EndsBucket.first_le_iff {midnight first ending : Instant}
    (midnightEnds : midnight.EndsBucket) (ends : ending.EndsBucket)
    (shifted : midnight.shift? bucketSeconds = some first) : first ≤ ending ↔ midnight < ending := by
  rw [Instant.shift?_eq_some_iff midnightEnds.ordinary] at shifted
  simp only [Instant.EndsBucket, bucketSeconds, Instant.lt_iff, Instant.le_iff,
    Instant.tick_eq] at *
  omega

theorem Instant.EndsBucket.le_first {midnight first : Instant} (midnightEnds : midnight.EndsBucket)
    (shifted : midnight.shift? bucketSeconds = some first) : midnight ≤ first := by
  rw [Instant.shift?_eq_some_iff midnightEnds.ordinary] at shifted
  simp only [bucketSeconds, Instant.le_iff, Instant.tick_eq] at *
  omega

theorem Instant.EndsBucket.next {midnight first : Instant} (midnightEnds : midnight.EndsBucket)
    (shifted : midnight.shift? bucketSeconds = some first) : first.EndsBucket := by
  rw [Instant.shift?_eq_some_iff midnightEnds.ordinary] at shifted
  simp only [Instant.EndsBucket, bucketSeconds] at *
  omega

/-- A time in a bucket that has not ended is within the trailing hour. -/
theorem InBucket.recent {now lookback ending timestamp : Instant}
    (lookedBack : now.shift? (-RainSource.lookbackSeconds) = some lookback)
    (inside : InBucket ending timestamp) (running : now < ending) : lookback ≤ timestamp := by
  have after := inside.1
  have near := (Instant.shiftNanos?_near lookedBack).1
  have bound := now.nanos_lt
  simp only [RainSource.lookbackSeconds, bucketSeconds, nanosPerSecond, Instant.lt_iff,
    Instant.le_iff, Instant.tick_eq, Instant.position] at *
  omega

theorem bucketRain?_eq_some_iff {ending : Instant} {rows : List RainRow} {inches : Binary32} :
    bucketRain? ending rows = some inches ↔
      bucketRows ending rows ≠ [] ∧ inches = rainSum (bucketRows ending rows) := by
  unfold bucketRain?
  cases bucketRows ending rows with
  | nil => simp
  | cons row rest => simp [eq_comm]

namespace StationRain

section Within

variable {rain : StationRain} {rows : List RainRow} {cutoff first last : Instant}

theorem Covers.within_increasing (covers : rain.Covers rows cutoff) :
    ((rain.bucketsWithin first last).map Prod.fst).Pairwise (· < ·) :=
  List.pairwise_map.mpr (List.Pairwise.filter _ covers.increasing)

theorem Covers.within_ends (covers : rain.Covers rows cutoff) {ending : Instant}
    (member : ending ∈ (rain.bucketsWithin first last).map Prod.fst) : ending.EndsBucket := by
  obtain ⟨entry, held, rfl⟩ := List.mem_map.mp member
  exact covers.ends entry (List.mem_of_mem_filter held)

theorem le_of_mem_within {rain : StationRain} {first last ending : Instant}
    (member : ending ∈ (rain.bucketsWithin first last).map Prod.fst) :
    first ≤ ending ∧ ending ≤ last := by
  obtain ⟨entry, held, rfl⟩ := List.mem_map.mp member
  simpa using (List.mem_filter.mp held).2

theorem Covers.bucketRain?_within (covers : rain.Covers rows cutoff) (kept : cutoff ≤ first)
    {entry : Instant × Binary32} (member : entry ∈ rain.bucketsWithin first last) :
    bucketRain? entry.1 rows = some entry.2 := by
  obtain ⟨held, bounds⟩ := List.mem_filter.mp member
  simp only [Bool.and_eq_true, decide_eq_true_eq] at bounds
  rw [← covers.buckets entry.1 (covers.ends entry held) (le_trans kept bounds.1)]
  exact (Table.find?_eq_some_iff covers.increasing).mpr held

theorem Covers.within_sum (covers : rain.Covers rows cutoff) (kept : cutoff ≤ first)
    {entry : Instant × Binary32} (member : entry ∈ rain.bucketsWithin first last) :
    entry.2 = rainSum (bucketRows entry.1 rows) :=
  (bucketRain?_eq_some_iff.mp (covers.bucketRain?_within kept member)).2

theorem Covers.mem_within (covers : rain.Covers rows cutoff) (kept : cutoff ≤ first)
    {ending : Instant} (ends : ending.EndsBucket) {row : RainRow} (member : row ∈ rows)
    (inside : InBucket ending row.timestamp) (fromFirst : first ≤ ending) (toLast : ending ≤ last) :
    ending ∈ (rain.bucketsWithin first last).map Prod.fst := by
  have nonempty : bucketRows ending rows ≠ [] :=
    List.ne_nil_of_mem (List.mem_filter.mpr ⟨member, decide_eq_true inside⟩)
  have found : rain.buckets.find? ending = some (rainSum (bucketRows ending rows)) := by
    rw [covers.buckets ending ends (le_trans kept fromFirst)]
    exact bucketRain?_eq_some_iff.mpr ⟨nonempty, rfl⟩
  have held := (Table.find?_eq_some_iff covers.increasing).mp found
  refine List.mem_map.mpr ⟨_, List.mem_filter.mpr ⟨held, ?_⟩, rfl⟩
  simp [fromFirst, toLast]

end Within

section Day

variable {rain : StationRain} {rows : List RainRow} {cutoff midnight now first lookback : Instant}

theorem Covers.behind_of_inAny (covers : rain.Covers rows cutoff)
    (midnightEnds : midnight.EndsBucket) (shifted : midnight.shift? bucketSeconds = some first)
    {row : RainRow} (held : inAny ((rain.bucketsWithin first now).map Prod.fst) row = true) :
    midnight < row.timestamp := by
  obtain ⟨ending, member, inside⟩ := inAny_iff.mp held
  have ends := covers.within_ends member
  have afterMidnight : midnight < ending :=
    (midnightEnds.first_le_iff ends shifted).mp (le_of_mem_within member).1
  exact inside.after ends midnightEnds afterMidnight

/-- A row behind midnight is in one of the buckets that ended, or behind all of them and recent. -/
theorem Covers.behind_eq (covers : rain.Covers rows cutoff) (midnightEnds : midnight.EndsBucket)
    (kept : cutoff ≤ first) (shifted : midnight.shift? bucketSeconds = some first)
    (lookedBack : now.shift? (-RainSource.lookbackSeconds) = some lookback) {row : RainRow}
    (member : row ∈ rows) (bucketed : ∃ bucket, bucketEnd? row.timestamp = some bucket)
    (notMidnight : row.timestamp ≠ midnight) :
    decide (midnight < row.timestamp) =
      (inAny ((rain.bucketsWithin first now).map Prod.fst) row ||
        trails ((rain.bucketsWithin first now).map Prod.fst).getLast?
          (Instant.later lookback midnight) row) := by
  obtain ⟨bucket, found⟩ := bucketed
  obtain ⟨bucketEnds, inside⟩ := bucketEnd?_eq_some_iff.mp found
  rw [Bool.eq_iff_iff, Bool.or_eq_true, trails, Bool.and_eq_true,
    decide_eq_true_eq, decide_eq_true_eq,
    all_getLast?_iff covers.within_increasing, Instant.later_le_iff]
  constructor
  · intro afterMidnight
    have whole : first ≤ bucket := (midnightEnds.first_le_iff bucketEnds shifted).mpr
      (lt_of_lt_of_le afterMidnight inside.2)
    -- Its bucket has ended and is one of the day's, or it still runs and the row is recent.
    by_cases ended : bucket ≤ now
    · left
      exact inAny_iff.mpr
        ⟨bucket, covers.mem_within kept bucketEnds member inside whole ended, inside⟩
    · right
      have running : now < bucket := lt_of_not_ge ended
      refine ⟨?_, inside.recent lookedBack running, afterMidnight.le⟩
      intro ending held
      exact inside.after bucketEnds (covers.within_ends held)
        (lt_of_le_of_lt (le_of_mem_within held).2 running)
  · rintro (held | ⟨-, -, fromMidnight⟩)
    · exact covers.behind_of_inAny midnightEnds shifted held
    · exact lt_of_le_of_ne fromMidnight (Ne.symm notMidnight)

theorem Covers.not_trails (covers : rain.Covers rows cutoff) {row : RainRow}
    (held : inAny ((rain.bucketsWithin first now).map Prod.fst) row = true) (notBefore : Instant) :
    trails ((rain.bucketsWithin first now).map Prod.fst).getLast? notBefore row = false := by
  obtain ⟨ending, member, inside⟩ := inAny_iff.mp held
  rw [← Bool.not_eq_true, trails, Bool.and_eq_true, all_getLast?_iff covers.within_increasing]
  rintro ⟨behind, -⟩
  exact absurd inside.2 (not_le_of_gt (behind ending member))

-- The buckets together hold exactly what their rows amount to.
theorem Covers.bucketTotal (covers : rain.Covers rows cutoff) (kept : cutoff ≤ first)
    (exact : SumsExactly rows) :
    (rain.bucketsWithin first now).foldl (fun total entry => total + entry.2) 0 =
      Binary.round false
        (rainAmount (rows.filter (inAny ((rain.bucketsWithin first now).map Prod.fst)))) := by
  have total : ((rain.bucketsWithin first now).map fun entry =>
      rainAmount (bucketRows entry.1 rows)).sum =
        rainAmount (rows.filter (inAny ((rain.bucketsWithin first now).map Prod.fst))) := by
    rw [← sum_bucketRows rows covers.within_increasing fun _ => covers.within_ends, List.map_map]
    rfl
  rw [zero_eq_round, Gauged.foldl_round (fun entry => rainAmount (bucketRows entry.1 rows))
    Gauged.zero, zero_add, total]
  · exact fun entry _ => (exact.filter _).gauged
  · intro entry member
    rw [covers.within_sum kept member]
    exact (exact.filter _).rainSum_toRat?
  · rw [zero_add, total]
    exact (exact.filter _).small

/-- Buckets and trailing rows together are the rows of the day. -/
theorem Covers.dailyTotal (covers : rain.Covers rows cutoff) (midnightEnds : midnight.EndsBucket)
    (kept : cutoff ≤ midnight)
    (shifted : midnight.shift? bucketSeconds = some first)
    (lookedBack : now.shift? (-RainSource.lookbackSeconds) = some lookback)
    (bucketed : ∀ row ∈ rows, ∃ bucket, bucketEnd? row.timestamp = some bucket)
    (notMidnight : ∀ row ∈ rows, row.timestamp ≠ midnight)
    (notLater : ∀ row ∈ rows, row.timestamp ≤ now) (exact : SumsExactly rows) :
    (rain.bucketsWithin first now).foldl (fun total entry => total + entry.2) 0 +
        rain.incrementalRain ((rain.bucketsWithin first now).map Prod.fst).getLast?
          (Instant.later lookback midnight) =
      rainSum (windowRows midnight now rows) := by
  have keptFirst : cutoff ≤ first := le_trans kept (midnightEnds.le_first shifted)
  -- Rows that were dropped are before midnight, so the trailing rows are found among all rows.
  have trailing : rain.rows.filter (trails
      ((rain.bucketsWithin first now).map Prod.fst).getLast? (Instant.later lookback midnight)) =
      rows.filter (trails ((rain.bucketsWithin first now).map Prod.fst).getLast?
        (Instant.later lookback midnight)) := by
    rw [covers.rows_eq]
    apply filter_dropWhile
    intro row trailing
    simp only [trails, Bool.and_eq_true, decide_eq_true_eq, Instant.later_le_iff] at trailing
    exact decide_eq_false (not_lt_of_ge (le_trans kept trailing.2.2))
  have parts := rainAmount_filter_add (fun row member => covers.behind_eq midnightEnds keptFirst
    shifted lookedBack member (bucketed row member) (notMidnight row member))
    fun row _ held => covers.not_trails held _
  have window : windowRows midnight now rows =
      rows.filter fun row => decide (midnight < row.timestamp) := by
    apply List.filter_congr
    intro row member
    simp [notLater row member]
  have bucketsExact := exact.filter (inAny ((rain.bucketsWithin first now).map Prod.fst))
  rw [incrementalRain_eq, trailing, covers.bucketTotal keptFirst exact,
    Binary.round_false_add (by decide) bucketsExact.gauged.nonneg
      (bucketsExact.gauged.single_holds bucketsExact.small) (exact.filter _).rawSum_toRat?,
    parts, ← (exact.filter _).rainSum_eq_round, window]

end Day

end StationRain

namespace RainStore

/-- A day of a station of which nothing is forgotten yet, without rows at midnight or ahead of now,
and with little enough rain in whole steps. -/
structure CoveredDay (retention : Int) (recordings : List Recording) (store : RainStore)
    (name : String) (midnight now : Instant) : Prop where
  nonneg : 0 ≤ retention
  run : Records { retention } recordings store
  ordinary : ∀ recording ∈ arrivals name recordings, recording.Ordinary
  midnightEnds : midnight.EndsBucket
  nowOrdinary : now.Ordinary
  order : midnight ≤ now
  kept : ∀ newest cutoff, (store.station name).newest = some newest →
    newest.shiftNanos? (-retention) = some cutoff → cutoff ≤ midnight
  notMidnight : ∀ row ∈ arrivedRows name recordings, row.timestamp ≠ midnight
  notLater : ∀ row ∈ arrivedRows name recordings, row.timestamp ≤ now
  exact : SumsExactly (arrivedRows name recordings)

variable {retention : Int} {recordings : List Recording} {store : RainStore} {name : String}
  {midnight now : Instant}

theorem dailyRainfallBetween_absent (absent : store.stations.find? name = none) :
    store.source.dailyRainfallBetween name midnight now =
      if (now.shift? (-RainSource.lookbackSeconds)).isSome then .ok 0 else .error .crash := by
  simp only [RainSource.dailyRainfallBetween, source, periodRain, incrementalRain, absent]
  cases now.shift? (-RainSource.lookbackSeconds) with
  | none => rfl
  | some lookback =>
    have nothing : (0 : Binary32) + 0 = 0 := by decide +kernel
    exact congrArg Except.ok nothing

theorem dailyRainfallBetween_present {rain : StationRain}
    (present : store.stations.find? name = some rain) :
    store.source.dailyRainfallBetween name midnight now =
      match midnight.shift? bucketSeconds, now.shift? (-RainSource.lookbackSeconds) with
      | some first, some lookback =>
        .ok ((rain.bucketsWithin first now).foldl (fun total entry => total + entry.2) 0 +
          rain.incrementalRain ((rain.bucketsWithin first now).map Prod.fst).getLast?
            (Instant.later lookback midnight))
      | _, _ => .error .crash := by
  simp only [RainSource.dailyRainfallBetween, source, periodRain, incrementalRain, present]
  cases shifted : midnight.shift? bucketSeconds with
  | none =>
    rw [StationRain.periodRain_crash shifted]
    rfl
  | some first =>
    rw [StationRain.periodRain_eq shifted]
    cases now.shift? (-RainSource.lookbackSeconds) with
    | none => rfl
    | some lookback => rfl

/-- The total since midnight is the sum of the rows since midnight, and it is exact. It crashes
exactly where the end of the first bucket or the start of the trailing hour is asked for outside
the calendar. -/
theorem dailyRainfallBetween_eq_rainSum
    (day : CoveredDay retention recordings store name midnight now) :
    (store.source.dailyRainfallBetween name midnight now =
      if (arrivedRows name recordings = [] ∨ (midnight.shift? bucketSeconds).isSome) ∧
          (now.shift? (-RainSource.lookbackSeconds)).isSome then
        .ok (rainSum (windowRows midnight now (arrivedRows name recordings)))
      else .error .crash) ∧
    (rainSum (windowRows midnight now (arrivedRows name recordings))).toRat? =
      some (rainAmount (windowRows midnight now (arrivedRows name recordings))) := by
  refine ⟨?total, (day.exact.filter _).rainSum_toRat?⟩
  rcases day.run.retains day.nonneg name day.ordinary with
    ⟨nothing, absent⟩ | ⟨rain, newest, cutoff, present, retains⟩
  · have noRows : arrivedRows name recordings = [] := by rw [arrivedRows, nothing, List.map_nil]
    -- For a station that is not known the end of the first bucket is not asked for.
    rw [dailyRainfallBetween_absent absent, noRows]
    simp only [true_or, true_and]
    rfl
  · have someRows : arrivedRows name recordings ≠ [] := by
      intro noRows
      have noArrivals := List.map_eq_nil_iff.mp noRows
      exact absurd retains.newest_mem (by simp [noArrivals])
    have kept : cutoff ≤ midnight :=
      day.kept newest cutoff (by rw [station_of_find? present, retains.noted]) retains.retained
    rw [dailyRainfallBetween_present present]
    simp only [someRows, false_or]
    cases shifted : midnight.shift? bucketSeconds with
    | none => simp
    | some first =>
      cases lookedBack : now.shift? (-RainSource.lookbackSeconds) with
      | none => simp
      | some lookback =>
        have total := retains.covers.dailyTotal day.midnightEnds kept shifted lookedBack
          (fun row member => day.run.bucketed member) day.notMidnight day.notLater
          day.exact
        simp only [Option.isSome_some, and_self, if_true]
        exact congrArg Except.ok total

/-- Two hours and a half of a day, with rain before midnight that is still retained. -/
theorem dailyRainfallBetween_gaugedRun :
    ∃ store midnight now,
      CoveredDay (172800 * nanosPerSecond) Recording.gaugedRun store "garden" midnight now ∧
      store.source.dailyRainfallBetween "garden" midnight now = .ok 0.875 := by
  obtain ⟨store, computed, latest⟩ :
      ∃ store, Recording.gaugedRun.foldlM recorded? { retention := 172800 * nanosPerSecond } =
        some store ∧ (store.station "garden").newest = some (.onSecond 1714525830) :=
    ⟨_, rfl, rfl⟩
  have day : CoveredDay (172800 * nanosPerSecond) Recording.gaugedRun store "garden"
      (.onSecond 1714521600) (.onSecond 1714525900) := by
    refine ⟨by decide, records_iff_foldlM.mpr computed, by decide, by decide, by decide,
      by decide, ?_, by decide, by decide, ⟨by decide +kernel, by decide +kernel⟩⟩
    intro newest cutoff noted retained
    cases latest.symm.trans noted
    have expiry : (Instant.onSecond 1714525830).shiftNanos? (-(172800 * nanosPerSecond)) =
        some (.onSecond 1714353030) := by decide
    cases expiry.symm.trans retained
    decide
  refine ⟨store, .onSecond 1714521600, .onSecond 1714525900, day, ?_⟩
  rw [(dailyRainfallBetween_eq_rainSum day).1]
  decide +kernel

/-- In the first hours of the calendar there is no trailing hour. -/
theorem dailyRainfallBetween_before_calendar :
    ¬ ∀ (retention : Int) (recordings : List Recording) (store : RainStore) (name : String)
      (midnight now : Instant), CoveredDay retention recordings store name midnight now →
        store.source.dailyRainfallBetween name midnight now =
          .ok (rainSum (windowRows midnight now (arrivedRows name recordings))) := by
  intro always
  let recordings : List Recording := [.gauge "garden" (.onSecond (-8334601228200)) 0.0009765625]
  obtain ⟨store, computed, latest, crashed⟩ :
      ∃ store, recordings.foldlM recorded? { retention := 600 * nanosPerSecond } = some store ∧
        (store.station "garden").newest = some (.onSecond (-8334601228200)) ∧
        store.source.dailyRainfallBetween "garden" (.onSecond (-8334601228800))
          (.onSecond (-8334601227000)) = .error .crash :=
    ⟨_, rfl, rfl, rfl⟩
  have day : CoveredDay (600 * nanosPerSecond) recordings store "garden"
      (.onSecond (-8334601228800)) (.onSecond (-8334601227000)) := by
    refine ⟨by decide, records_iff_foldlM.mpr computed, by decide, by decide, by decide,
      by decide, ?_, by decide, by decide, ⟨by decide +kernel, by decide +kernel⟩⟩
    intro newest cutoff noted retained
    cases latest.symm.trans noted
    have expiry : (Instant.onSecond (-8334601228200)).shiftNanos? (-(600 * nanosPerSecond)) =
        some (.onSecond (-8334601228800)) := by decide
    cases expiry.symm.trans retained
    decide
  have total := always _ _ _ _ _ _ day
  rw [crashed] at total
  cases total

end RainStore

end WeatherRelay
