import WeatherRelay.Proofs.RainStore.AheadOfNow
import WeatherRelay.Proofs.Time.LocalDay

/-! The rain of a local day without a midnight.

Where clocks are set forward over midnight, the day starts with the change, and the time of the
question stands in for its start. Then no bucket lies between the two, and rows are taken from that
time on. So all that fell since the change is left out, and the total starts anew at every question.
-/

set_option autoImplicit false

namespace WeatherRelay

namespace Zone

variable {zone : Zone} {now : Instant}

theorem localMidnight_of_skips (skipped : zone.Skips (zone.localDay now * 86400)) :
    zone.localMidnight now = now := by
  obtain ⟨early, late⟩ := skips_iff.mp skipped
  have never : zone.instantsAt (zone.localDay now * 86400) = [] := by
    rw [instantsAt, if_neg (not_lt.mpr early), if_neg (not_le.mpr late), List.append_nil]
  rw [localMidnight, never, List.head?_nil, Option.getD_none]

/-- Such a day starts with the change, unless the calendar starts later. -/
theorem exists_isLeast_of_skips (skipped : zone.Skips (zone.localDay now * 86400)) :
    ∃ start, IsLeast {instant | zone.localDay instant = zone.localDay now} start ∧
      start.seconds = max zone.change (-8334601228800) ∧ start.nanos = 0 := by
  obtain ⟨early, late⟩ := skips_iff.mp skipped
  have first := now.first_le
  have last := now.le_last
  -- Up to the change clocks show the date before.
  have behind : ¬ now.seconds < zone.change := by
    intro before
    simp only [localDay, offsetAt, if_pos before] at early
    omega
  have day : zone.localDay now = (now.seconds + zone.after) / 86400 := by
    rw [localDay, offsetAt, if_neg behind]
  have low : (-8334601228800 : Int) ≤ max zone.change (-8334601228800) := le_max_right _ _
  have high : max zone.change (-8334601228800) ≤ 8210266876799 := by omega
  let start : Instant := ⟨_, 0, low, high, by decide, fun leap => absurd leap (by decide)⟩
  refine ⟨start, ⟨?starts, ?least⟩, rfl, rfl⟩
  case starts =>
    have changed : ¬ start.seconds < zone.change := not_lt.mpr (le_max_left _ _)
    change (start.seconds + zone.offsetAt start) / 86400 = _
    rw [day] at late ⊢
    rw [offsetAt, if_neg changed]
    dsimp only [start]
    omega
  case least =>
    intro other sameDay
    have otherFirst := other.first_le
    have changed : ¬ other.seconds < zone.change := by
      intro before
      have earlier : (other.seconds + zone.before) / 86400 = zone.localDay now := by
        rw [← sameDay, localDay, offsetAt, if_pos before]
      omega
    rw [Instant.le_iff, Instant.tick_eq, Instant.tick_eq]
    dsimp only [start]
    omega

end Zone

theorem Instant.lt_of_shift?_bucket {now first : Instant}
    (moved : now.shift? bucketSeconds = some first) : now < first := by
  by_contra stays
  have near := (shiftNanos?_near moved).2
  have back := position_near (not_lt.mp stays)
  simp only [bucketSeconds, nanosPerSecond] at near
  omega

/-- The rows from one time up to before another. -/
def rowsBetween (since now : Instant) (rows : List RainRow) : List RainRow :=
  rows.filter fun row => since ≤ row.timestamp && row.timestamp < now

/-- The rows from one time on. -/
def rowsFrom (since : Instant) (rows : List RainRow) : List RainRow :=
  rows.filter fun row => since ≤ row.timestamp

namespace StationRain

theorem bucketsWithin_of_lt {rain : StationRain} {first now : Instant} (later : now < first) :
    rain.bucketsWithin first now = [] := by
  apply List.filter_eq_nil_iff.mpr
  intro entry _ within
  obtain ⟨fromFirst, toNow⟩ := Bool.and_eq_true_iff.mp within
  exact absurd (le_trans (of_decide_eq_true fromFirst) (of_decide_eq_true toNow)) (not_le.mpr later)

/-- A raw sum from an earlier time is more by just the rows in between. -/
theorem incrementalRain_isMoreBy {rain : StationRain} {since now : Instant}
    (exact : SumsExactly rain.rows) (order : since ≤ now) :
    RainStore.IsMoreBy (rainAmount (rowsBetween since now rain.rows))
      (rain.incrementalRain none since) (0 + rain.incrementalRain none now) := by
  have raw (bound : Instant) : rain.incrementalRain none bound = rawSum (rowsFrom bound rain.rows) :=
    rain.incrementalRain_eq none bound
  have parts : rainAmount (rowsFrom now rain.rows) + rainAmount (rowsBetween since now rain.rows) =
      rainAmount (rowsFrom since rain.rows) := by
    apply rainAmount_filter_add
    · intro row _
      rcases lt_or_ge row.timestamp now with before | behind
      · simp [before, not_le.mpr before]
      · simp [behind, not_lt.mpr behind, le_trans order behind]
    · intro row _ behind
      simp [not_lt.mpr (of_decide_eq_true behind)]
  have counted : SumsExactly (rowsFrom now rain.rows) := exact.filter _
  have whole : SumsExactly (rowsFrom since rain.rows) := exact.filter _
  rw [raw, raw]
  apply RainStore.isMoreBy_of_toRat?
  · rw [parts]
    exact whole.rawSum_toRat?
  · rw [zero_eq_round, Binary.round_false_add (by decide) le_rfl
      (Gauged.zero.single_holds (by norm_num)) counted.rawSum_toRat?, zero_add]
    exact counted.gauged.toRat?_round counted.small

end StationRain

namespace RainStore

variable {store : RainStore} {name : String} {rain : StationRain} {now : Instant}

/-- Asked with the present as midnight, a station adds up the rows from the present on. -/
theorem dailyRainfallBetween_now (known : store.stations.find? name = some rain) :
    store.source.dailyRainfallBetween name now now =
      if (now.shift? bucketSeconds).isSome ∧ (now.shift? (-RainSource.lookbackSeconds)).isSome then
        .ok (0 + rain.incrementalRain none now)
      else .error .crash := by
  rw [dailyRainfallBetween_present known]
  cases moved : now.shift? bucketSeconds with
  | none => simp
  | some first =>
    cases lookedBack : now.shift? (-RainSource.lookbackSeconds) with
    | none => simp
    | some lookback =>
      have present : Instant.later lookback now = now := by
        have back := Instant.le_of_shift?_back (by decide) lookedBack
        unfold Instant.later
        rw [if_pos back]
      simp [StationRain.bucketsWithin_of_lt (Instant.lt_of_shift?_bucket moved), present]

/-- On a day whose midnight clocks skip, the time of the question stands in for the start of the day.
The total is that of the rows stamped then or later, so of the rows since the start of the day and
the trailing hour it counts those of this very moment only. It falls short of their raw sum by all
the rain of the others. -/
theorem skipped_midnight_leaves_out_rain {zone : Zone}
    (skipped : zone.Skips (zone.localDay now * 86400))
    (known : store.stations.find? name = some rain) :
    zone.localMidnight now = now ∧
    store.source.dailyRainfallBetween name (zone.localMidnight now) now =
      (if (now.shift? bucketSeconds).isSome ∧
          (now.shift? (-RainSource.lookbackSeconds)).isSome then
        .ok (0 + rawSum (rowsFrom now rain.rows))
      else .error .crash) ∧
    ∃ start, IsLeast {instant | zone.localDay instant = zone.localDay now} start ∧
      start.seconds = max zone.change (-8334601228800) ∧ start.nanos = 0 ∧
      ∀ lookback, now.shift? (-RainSource.lookbackSeconds) = some lookback →
        let since := Instant.later lookback start
        (∀ row ∈ rain.rows, since ≤ row.timestamp → row.timestamp ≤ now →
          (row ∈ rowsFrom now rain.rows ↔ row.timestamp = now)) ∧
        (SumsExactly rain.rows →
          IsMoreBy (rainAmount (rowsBetween since now rain.rows))
            (rain.incrementalRain none since) (0 + rawSum (rowsFrom now rain.rows))) := by
  obtain ⟨start, least, seconds, nanos⟩ := Zone.exists_isLeast_of_skips skipped
  have midnight := Zone.localMidnight_of_skips skipped
  refine ⟨midnight, ?answer, start, least, seconds, nanos, fun lookback lookedBack => ⟨?rows, ?sums⟩⟩
  case answer =>
    rw [midnight, dailyRainfallBetween_now known]
    rfl
  case rows =>
    intro row member _ upTo
    rw [rowsFrom, List.mem_filter, and_iff_right member, decide_eq_true_eq]
    exact ⟨fun behind => le_antisymm upTo behind, fun same => same.ge⟩
  case sums =>
    intro exact
    have back := Instant.le_of_shift?_back (by decide) lookedBack
    exact StationRain.incrementalRain_isMoreBy exact
      (Instant.later_le_iff.mpr ⟨back, least.2 rfl⟩)

/-- Clocks are set forward by an hour at midnight. Twenty minutes later there has been a quarter of
an inch, and the total is none. -/
theorem skipped_midnight_leaves_out_quarter :
    let zone : Zone := ⟨-10800, 1541300400, -7200⟩
    let now := Instant.onSecond 1541301900
    let store := ({ retention := 172800 * nanosPerSecond } : RainStore).afterAll
      [.gauge "backyard" (.onSecond 1541301600) 0.25]
    let rain := store.station "backyard"
    zone.Skips (zone.localDay now * 86400) ∧ store.stations.find? "backyard" = some rain ∧
      zone.localMidnight now = now ∧
      IsLeast {instant | zone.localDay instant = zone.localDay now} (.onSecond 1541300400) ∧
      store.source.dailyRainfallBetween "backyard" (zone.localMidnight now) now = .ok 0 ∧
      IsMoreBy (1 / 4) 0.25 0 := by
  intro zone now store rain
  have skipped : zone.Skips (zone.localDay now * 86400) := by decide
  have known : store.stations.find? "backyard" = some rain := by decide +kernel
  have exact : SumsExactly rain.rows := ⟨by decide +kernel, by decide +kernel⟩
  have lookedBack : now.shift? (-RainSource.lookbackSeconds) = some (.onSecond 1541298300) := by
    decide
  have bucketed : (now.shift? bucketSeconds).isSome := by decide
  obtain ⟨midnight, answer, start, least, seconds, nanos, window⟩ :=
    skipped_midnight_leaves_out_rain skipped known
  obtain rfl : start = .onSecond 1541300400 :=
    Instant.eq_of_tick (by rw [Instant.tick_eq, seconds, nanos]; decide)
  have more := (window _ lookedBack).2 exact
  have since : Instant.later (.onSecond 1541298300) (.onSecond 1541300400) =
      .onSecond 1541300400 := by decide
  have counted : (0 : Binary32) + rawSum (rowsFrom now rain.rows) = 0 := by decide +kernel
  have raw : rain.incrementalRain none (.onSecond 1541300400) = 0.25 := by decide +kernel
  have missing : rainAmount (rowsBetween (.onSecond 1541300400) now rain.rows) = 1 / 4 := by
    decide +kernel
  rw [since, counted, raw, missing] at more
  rw [if_pos ⟨bucketed, by rw [lookedBack]; rfl⟩, counted] at answer
  exact ⟨skipped, known, midnight, least, answer, more⟩

/-- The rows between the start of a day and a time on it, of no more than the trailing hour, do not
all count where the day has no midnight. -/
theorem skipped_midnight_not_all_counted :
    ¬ ∀ (zone : Zone) (retention : Int) (recordings : List Recording) (name : String)
      (now start lookback : Instant) (rain : StationRain) (total : Binary32), 0 ≤ retention →
      zone.Skips (zone.localDay now * 86400) →
      IsLeast {instant | zone.localDay instant = zone.localDay now} start →
      now.shift? (-RainSource.lookbackSeconds) = some lookback →
      (({ retention } : RainStore).afterAll recordings).stations.find? name = some rain →
      SumsExactly rain.rows →
      (({ retention } : RainStore).afterAll recordings).source.dailyRainfallBetween name
        (zone.localMidnight now) now = .ok total →
      ∃ amount, total.toRat? = some amount ∧
        rainAmount (rain.rows.filter fun row =>
          Instant.later lookback start ≤ row.timestamp && row.timestamp ≤ now) ≤ amount := by
  intro counted
  let zone : Zone := ⟨-10800, 1541300400, -7200⟩
  let now := Instant.onSecond 1541301900
  let recordings : List Recording := [.gauge "backyard" (.onSecond 1541301600) 0.25]
  let store := ({ retention := 172800 * nanosPerSecond } : RainStore).afterAll recordings
  have skipped : zone.Skips (zone.localDay now * 86400) := by decide
  obtain ⟨start, least, seconds, nanos⟩ := Zone.exists_isLeast_of_skips skipped
  obtain rfl : start = .onSecond 1541300400 :=
    Instant.eq_of_tick (by rw [Instant.tick_eq, seconds, nanos]; decide)
  have midnight := Zone.localMidnight_of_skips skipped
  have answer : store.source.dailyRainfallBetween "backyard" now now = .ok 0 := by decide +kernel
  obtain ⟨amount, value, enough⟩ := counted zone (172800 * nanosPerSecond) recordings "backyard" now
    _ (.onSecond 1541298300) (store.station "backyard") 0 (by decide) skipped least (by decide)
    (by decide +kernel) ⟨by decide +kernel, by decide +kernel⟩ (by rw [midnight]; exact answer)
  have nothing : (0 : Binary32).toRat? = some 0 := by decide +kernel
  obtain rfl := Option.some.inj (nothing.symm.trans value)
  exact absurd enough (by decide +kernel)

end RainStore

end WeatherRelay
