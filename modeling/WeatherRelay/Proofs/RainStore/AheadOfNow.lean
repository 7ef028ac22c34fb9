import WeatherRelay.Proofs.RainStore.DayGrowth

/-! Rain stamped after the time that a total is asked for.

Buckets are taken up to that time and rows without such a bound. So every row that is held ahead of it
counts in full, in the rate and in the total of the day, whatever buckets there are.
-/

set_option autoImplicit false

namespace WeatherRelay

/-- The rows stamped after `now`. -/
def rowsAhead (now : Instant) (rows : List RainRow) : List RainRow :=
  rows.filter fun row => now < row.timestamp

/-- Rows that are wanted, and not ahead of `now`. -/
def wantedUpTo (now : Instant) (wanted : RainRow → Bool) (row : RainRow) : Bool :=
  wanted row && row.timestamp ≤ now

/-- Rows that are wanted, and all that are ahead of `now`. -/
def wantedOrAhead (now : Instant) (wanted : RainRow → Bool) (row : RainRow) : Bool :=
  wantedUpTo now wanted row || now < row.timestamp

theorem rainAmount_wantedOrAhead (rows : List RainRow) (wanted : RainRow → Bool) (now : Instant) :
    rainAmount (rows.filter (wantedUpTo now wanted)) + rainAmount (rowsAhead now rows) =
      rainAmount (rows.filter (wantedOrAhead now wanted)) := by
  apply rainAmount_filter_add
  · intro row _
    rfl
  · intro row _ upTo
    exact decide_eq_false (not_lt_of_ge (of_decide_eq_true (Bool.and_eq_true_iff.mp upTo).2))

theorem filter_wantedOrAhead {wanted : RainRow → Bool} {now : Instant}
    (ahead : ∀ row, now < row.timestamp → wanted row = true) (rows : List RainRow) :
    rows.filter (wantedOrAhead now wanted) = rows.filter wanted := by
  apply List.filter_congr
  intro row _
  unfold wantedOrAhead wantedUpTo
  rcases le_or_gt row.timestamp now with before | later
  · simp [before, not_lt_of_ge before]
  · simp [later, ahead row later]

theorem filter_wantedUpTo (wanted : RainRow → Bool) (now : Instant) (rows : List RainRow) :
    rows.filter (wantedUpTo now wanted) =
      (rows.filter fun row => row.timestamp ≤ now).filter wanted := by
  rw [List.filter_filter]
  rfl

theorem filter_wantedUpTo_sublist (wanted : RainRow → Bool) (now : Instant) (rows : List RainRow) :
    (rows.filter (wantedUpTo now wanted)).Sublist (rows.filter wanted) := by
  rw [filter_wantedUpTo]
  exact List.filter_sublist.filter _

namespace StationRain

/-- A station from which the rows stamped after `now` are taken away. A bucket that has ended by then
holds none of them and stays; what becomes of the later ones is left open. -/
structure WithoutAhead (rain without : StationRain) (now : Instant) : Prop where
  rows : without.rows = rain.rows.filter fun row => row.timestamp ≤ now
  ended : (without.buckets.entries.filter fun entry => entry.1 ≤ now) =
    rain.buckets.entries.filter fun entry => entry.1 ≤ now

/-- The rows up to `now`, and the buckets that have ended by then. -/
def upTo (rain : StationRain) (now : Instant) : StationRain :=
  { rain with
    rows := rain.rows.filter fun row => row.timestamp ≤ now
    buckets := ⟨rain.buckets.entries.filter fun entry => entry.1 ≤ now⟩ }

theorem withoutAhead_upTo (rain : StationRain) (now : Instant) :
    rain.WithoutAhead (rain.upTo now) now where
  rows := rfl
  ended := by simp [upTo, List.filter_filter]

section WithoutAhead

variable {rain without : StationRain} {now first since notBefore : Instant} {after : Option Instant}

theorem WithoutAhead.bucketsWithin (taken : rain.WithoutAhead without now) (first : Instant) :
    without.bucketsWithin first now = rain.bucketsWithin first now := by
  have bounded (buckets : List (Instant × Binary32)) :
      (buckets.filter fun entry => first ≤ entry.1 && entry.1 ≤ now) =
        (buckets.filter fun entry => entry.1 ≤ now).filter fun entry => first ≤ entry.1 := by
    rw [List.filter_filter]
  change without.buckets.entries.filter (fun entry => first ≤ entry.1 && entry.1 ≤ now) =
    rain.buckets.entries.filter fun entry => first ≤ entry.1 && entry.1 ≤ now
  rw [bounded, bounded, taken.ended]

theorem WithoutAhead.periodRain (taken : rain.WithoutAhead without now) (since : Instant) :
    without.periodRain since now = rain.periodRain since now := by
  cases shifted : since.shift? bucketSeconds with
  | none => rw [periodRain_crash shifted, periodRain_crash shifted]
  | some first => rw [periodRain_eq shifted, periodRain_eq shifted, taken.bucketsWithin]

theorem WithoutAhead.incrementalRain (taken : rain.WithoutAhead without now) :
    without.incrementalRain after notBefore =
      rawSum (rain.rows.filter (wantedUpTo now (trails after notBefore))) := by
  rw [incrementalRain_eq, taken.rows, filter_wantedUpTo]

/-- What is ahead of `now` is behind the last bucket and the start of any window. -/
theorem trails_ahead (ended : ∀ ending, after = some ending → ending ≤ now) (order : notBefore ≤ now)
    (row : RainRow) (ahead : now < row.timestamp) : trails after notBefore row = true := by
  have young : notBefore ≤ row.timestamp := le_trans order ahead.le
  unfold trails
  cases after with
  | none => simp [young]
  | some ending => simp [young, lt_of_le_of_lt (ended ending rfl) ahead]

theorem incrementalRain_with_ahead (ended : ∀ ending, after = some ending → ending ≤ now)
    (order : notBefore ≤ now) :
    rain.incrementalRain after notBefore =
      rawSum (rain.rows.filter (wantedOrAhead now (trails after notBefore))) := by
  rw [incrementalRain_eq, filter_wantedOrAhead (trails_ahead ended order)]

theorem ended_of_getLast? (rain : StationRain) (first now : Instant) :
    ∀ ending, (rain.endingsWithin first now).getLast? = some ending → ending ≤ now :=
  fun _ last => (le_of_mem_within (List.mem_of_getLast? last)).2

end WithoutAhead

end StationRain

namespace RainStore

/-- A store with another record of one station. -/
def replaceStation (store : RainStore) (name : String) (rain : StationRain) : RainStore :=
  { store with stations := store.stations.insert name rain }

theorem find?_replaceStation (store : RainStore) (name : String) (rain : StationRain) :
    (store.replaceStation name rain).stations.find? name = some rain :=
  (Table.find?_insert _ _ _ _).trans (if_pos rfl)

/-- What a station answers at `now`, with the rows stamped after it and without them. The buckets are
the same. The rows are those of the window up to `now`, with all that are ahead of it or with none. -/
structure CountsAhead (store past : RainStore) (name : String) (held : List RainRow)
    (midnight now : Instant) : Prop where
  period : past.periodRain name midnight now = store.periodRain name midnight now
  rate : ∀ start, now.shift? (-RainSource.rateWindowSeconds) = some start →
    store.source.rainRateAt name now =
      .ok (rawSum (held.filter (wantedOrAhead now fun row => start ≤ row.timestamp)) * 6) ∧
    past.source.rainRateAt name now =
      .ok (rawSum (held.filter (wantedUpTo now fun row => start ≤ row.timestamp)) * 6)
  rateOutside : now.shift? (-RainSource.rateWindowSeconds) = none →
    store.source.rainRateAt name now = .error .crash ∧
    past.source.rainRateAt name now = .error .crash
  day : ∀ period lookback, store.periodRain name midnight now = .ok period →
    now.shift? (-RainSource.lookbackSeconds) = some lookback →
    store.source.dailyRainfallBetween name midnight now =
      .ok (period.total + rawSum (held.filter (wantedOrAhead now
        (StationRain.trails period.lastBucket (Instant.later lookback midnight))))) ∧
    past.source.dailyRainfallBetween name midnight now =
      .ok (period.total + rawSum (held.filter (wantedUpTo now
        (StationRain.trails period.lastBucket (Instant.later lookback midnight)))))
  dayOutside : midnight.shift? bucketSeconds = none ∨
      now.shift? (-RainSource.lookbackSeconds) = none →
    store.source.dailyRainfallBetween name midnight now = .error .crash ∧
    past.source.dailyRainfallBetween name midnight now = .error .crash

section Answers

variable {store : RainStore} {name : String} {midnight now : Instant} {rain without : StationRain}

theorem rainRateAt_present (known : store.stations.find? name = some rain) :
    store.source.rainRateAt name now =
      match now.shift? (-RainSource.rateWindowSeconds) with
      | some start => .ok (rain.incrementalRain none start * 6)
      | none => .error .crash := by
  simp only [RainSource.rainRateAt, source, incrementalRain, known]
  cases now.shift? (-RainSource.rateWindowSeconds) <;> rfl

theorem countsAhead (order : midnight ≤ now) (known : store.stations.find? name = some rain)
    (taken : rain.WithoutAhead without now) :
    store.CountsAhead (store.replaceStation name without) name rain.rows midnight now := by
  have known' := find?_replaceStation store name without
  have period : store.periodRain name midnight now = rain.periodRain midnight now := by
    rw [periodRain, known]
  refine ⟨?period, ?rate, ?rateOutside, ?day, ?dayOutside⟩
  case period =>
    rw [period, periodRain, known']
    exact taken.periodRain midnight
  case rate =>
    intro start moved
    have before : start ≤ now := Instant.le_of_shift?_back (by decide) moved
    have noBucket : ∀ ending, (none : Option Instant) = some ending → ending ≤ now := by simp
    rw [rainRateAt_present known, rainRateAt_present known', moved]
    dsimp only
    rw [taken.incrementalRain, StationRain.incrementalRain_with_ahead noBucket before]
    exact ⟨rfl, rfl⟩
  case rateOutside =>
    intro outside
    rw [rainRateAt_present known, rainRateAt_present known', outside]
    exact ⟨rfl, rfl⟩
  case day =>
    intro buckets lookback answered lookedBack
    have since : Instant.later lookback midnight ≤ now :=
      Instant.later_le_iff.mpr ⟨Instant.le_of_shift?_back (by decide) lookedBack, order⟩
    rw [period] at answered
    rw [dailyRainfallBetween_present known, dailyRainfallBetween_present known', lookedBack]
    cases shifted : midnight.shift? bucketSeconds with
    | none =>
      rw [StationRain.periodRain_crash shifted] at answered
      contradiction
    | some first =>
      rw [StationRain.periodRain_eq shifted] at answered
      obtain rfl := Except.ok.inj answered
      dsimp only
      rw [taken.bucketsWithin, taken.incrementalRain,
        StationRain.incrementalRain_with_ahead (rain.ended_of_getLast? first now) since]
      exact ⟨rfl, rfl⟩
  case dayOutside =>
    intro outside
    rw [dailyRainfallBetween_present known, dailyRainfallBetween_present known']
    rcases outside with noBucket | noHour
    · rw [noBucket]
      exact ⟨rfl, rfl⟩
    · rw [noHour]
      cases midnight.shift? bucketSeconds <;> exact ⟨rfl, rfl⟩

end Answers

/-- One answer is more than another by some inches, and it is the same number only where that is
none. -/
structure IsMoreBy (inches : Rat) (more less : Binary32) : Prop where
  amounts : ∃ amount, less.toRat? = some amount ∧ more.toRat? = some (amount + inches)
  same_iff : more.same less = true ↔ inches = 0

theorem isMoreBy_of_toRat? {inches amount : Rat} {more less : Binary32}
    (moreSum : more.toRat? = some (amount + inches)) (lessSum : less.toRat? = some amount) :
    IsMoreBy inches more less where
  amounts := ⟨amount, lessSum, moreSum⟩
  same_iff := by rw [Binary.same_iff_eq moreSum lessSum, add_eq_left]

/-- Six times a small sum is not rounded either. -/
theorem rawSum_mul_six {rows : List RainRow} (exact : SumsExactly rows)
    (small : rainAmount rows * 6 < 16384) :
    (rawSum rows * 6).toRat? = some (rainAmount rows * 6) := by
  have six : (6 : Binary32).toRat? = some 6 := by decide +kernel
  have product : Gauged (rainAmount rows * 6) := by
    obtain ⟨count, same⟩ := exact.gauged
    refine ⟨count * 6, ?_⟩
    rw [same]
    push_cast
    ring
  obtain ⟨zeroSign, multiplied⟩ := Binary.exists_mul_eq_round exact.rawSum_toRat? six
  rw [multiplied]
  apply Binary.toRat?_round zeroSign (by decide)
  rw [abs_of_nonneg product.nonneg]
  exact product.single_holds small

section Amounts

variable {retention : Int} {recordings : List Recording} {name : String} {midnight now : Instant}
  {rain without : StationRain}

theorem CountsAhead.rate_isMoreBy {store past : RainStore} {held : List RainRow}
    (counts : store.CountsAhead past name held midnight now) (exact : SumsExactly held)
    (small : rainAmount held * 6 < 16384) {rate rate' : Binary32}
    (answered : store.source.rainRateAt name now = .ok rate)
    (answered' : past.source.rainRateAt name now = .ok rate') :
    IsMoreBy (rainAmount (rowsAhead now held) * 6) rate rate' := by
  have bounded (wanted : RainRow → Bool) : rainAmount (held.filter wanted) * 6 < 16384 := by
    have part := rainAmount_le_of_sublist exact.counts (List.filter_sublist (p := wanted))
    linarith
  cases moved : now.shift? (-RainSource.rateWindowSeconds) with
  | none =>
    rw [(counts.rateOutside moved).1] at answered
    contradiction
  | some start =>
    obtain ⟨whole, part⟩ := counts.rate start moved
    obtain rfl := Except.ok.inj (whole.symm.trans answered)
    obtain rfl := Except.ok.inj (part.symm.trans answered')
    have more := rawSum_mul_six (exact.filter (wantedOrAhead now fun row => start ≤ row.timestamp))
      (bounded _)
    rw [← rainAmount_wantedOrAhead, add_mul] at more
    exact isMoreBy_of_toRat? more (rawSum_mul_six (exact.filter _) (bounded _))

theorem AskedDay.total_isMoreBy (day : AskedDay retention recordings name midnight)
    (order : midnight ≤ now)
    (known : (({ retention } : RainStore).afterAll recordings).stations.find? name = some rain)
    (taken : rain.WithoutAhead without now) {total total' : Binary32}
    (answered : (({ retention } : RainStore).afterAll recordings).source.dailyRainfallBetween name
      midnight now = .ok total)
    (answered' : ((({ retention } : RainStore).afterAll recordings).replaceStation name
      without).source.dailyRainfallBetween name midnight now = .ok total') :
    IsMoreBy (rainAmount (rowsAhead now rain.rows)) total total' ∧
      (total = total' ↔ rainAmount (rowsAhead now rain.rows) = 0) := by
  have counts := countsAhead order known taken
  cases shifted : midnight.shift? bucketSeconds with
  | none =>
    rw [(counts.dayOutside (.inl shifted)).1] at answered
    contradiction
  | some first =>
    cases lookedBack : now.shift? (-RainSource.lookbackSeconds) with
    | none =>
      rw [(counts.dayOutside (.inr lookedBack)).1] at answered
      contradiction
    | some lookback =>
      have period : (({ retention } : RainStore).afterAll recordings).periodRain name midnight now =
          .ok ⟨(rain.bucketsWithin first now).foldl (fun total entry => total + entry.2) 0,
            (rain.endingsWithin first now).getLast?⟩ := by
        rw [periodRain, known]
        exact StationRain.periodRain_eq shifted
      obtain ⟨whole, part⟩ := counts.day _ lookback period lookedBack
      obtain rfl := Except.ok.inj (whole.symm.trans answered)
      obtain rfl := Except.ok.inj (part.symm.trans answered')
      have since : Instant.later lookback midnight ≤ now :=
        Instant.later_le_iff.mpr ⟨Instant.le_of_shift?_back (by decide) lookedBack, order⟩
      have holds := day.holdsFrom shifted
      rw [station_of_find? known] at holds
      have sublist := holds.held.filter (StationRain.trails (rain.endingsWithin first now).getLast?
        (Instant.later lookback midnight))
      have ahead := filter_wantedOrAhead
        (StationRain.trails_ahead (rain.ended_of_getLast? first now) since) rain.rows
      have more := holds.total_eq_round day.exact (ahead ▸ sublist)
      have less := holds.total_eq_round day.exact
        ((filter_wantedUpTo_sublist _ now _).trans sublist)
      rw [← rainAmount_wantedOrAhead, ← add_assoc] at more
      refine ⟨isMoreBy_of_toRat? more.2 less.2, ?_, ?_⟩
      · intro same
        have amounts := Option.some.inj (less.2.symm.trans (same ▸ more.2))
        linarith
      · intro nothing
        rw [more.1, less.1, nothing, add_zero]

end Amounts

/-- Rain stamped after `now` counts in full. Whatever was recorded, the buckets are the same without
it, and of the rows ahead all count, in the rate and in the total of the day. Where nothing is rounded
both are more by just their rain, and the same as without it only where they have none. -/
theorem rain_ahead_counts (retention : Int) (recordings : List Recording) (name : String)
    {midnight now : Instant} {rain without : StationRain} (order : midnight ≤ now)
    (known : (({ retention } : RainStore).afterAll recordings).stations.find? name = some rain)
    (taken : rain.WithoutAhead without now) :
    let store := ({ retention } : RainStore).afterAll recordings
    let past := store.replaceStation name without
    store.CountsAhead past name rain.rows midnight now ∧
    (SumsExactly rain.rows → rainAmount rain.rows * 6 < 16384 → ∀ rate rate',
      store.source.rainRateAt name now = .ok rate → past.source.rainRateAt name now = .ok rate' →
      IsMoreBy (rainAmount (rowsAhead now rain.rows) * 6) rate rate') ∧
    (AskedDay retention recordings name midnight → ∀ total total',
      store.source.dailyRainfallBetween name midnight now = .ok total →
      past.source.dailyRainfallBetween name midnight now = .ok total' →
      IsMoreBy (rainAmount (rowsAhead now rain.rows)) total total' ∧
      (total = total' ↔ rainAmount (rowsAhead now rain.rows) = 0)) := by
  intro store past
  have counts := countsAhead order known taken
  refine ⟨counts, ?_, ?_⟩
  · intro exact small rate rate'
    exact counts.rate_isMoreBy exact small
  · intro day total total'
    exact day.total_isMoreBy order known taken

/-- A quarter of an inch in the first half-hour of a day, and a half from a clock that is two hours
ahead. The half counts at once. -/
theorem rain_ahead_counts_half :
    let midnight := Instant.onSecond 1714521600
    let now := Instant.onSecond 1714523400
    let recordings : List Recording :=
      [.gauge "garden" (.onSecond 1714523100) 0.25, .gauge "garden" (.onSecond 1714530300) 0.5]
    let store := ({ retention := 172800 * nanosPerSecond } : RainStore).afterAll recordings
    let rain := store.station "garden"
    let past := store.replaceStation "garden" (rain.upTo now)
    midnight ≤ now ∧ store.stations.find? "garden" = some rain ∧
      AskedDay (172800 * nanosPerSecond) recordings "garden" midnight ∧
      store.source.rainRateAt "garden" now = .ok 4.5 ∧
      past.source.rainRateAt "garden" now = .ok 1.5 ∧ IsMoreBy 3 4.5 1.5 ∧
      store.source.dailyRainfallBetween "garden" midnight now = .ok 0.75 ∧
      past.source.dailyRainfallBetween "garden" midnight now = .ok 0.25 ∧
      IsMoreBy (1 / 2) 0.75 0.25 := by
  intro midnight now recordings store rain past
  have known : store.stations.find? "garden" = some rain := by decide +kernel
  have latest : (store.station "garden").newest = some (.onSecond 1714530300) := by
    decide +kernel
  have expiry : (Instant.onSecond 1714530300).shiftNanos? (-(172800 * nanosPerSecond)) =
      some (.onSecond 1714357500) := by decide
  have day : AskedDay (172800 * nanosPerSecond) recordings "garden" midnight :=
    askedDay_of_newest (by decide) latest expiry (by decide)
      ⟨by decide +kernel, by decide +kernel⟩
  have order : midnight ≤ now := by decide
  have exact : SumsExactly rain.rows := ⟨by decide +kernel, by decide +kernel⟩
  have half : rainAmount (rowsAhead now rain.rows) = 1 / 2 := by decide +kernel
  obtain ⟨-, rates, totals⟩ := rain_ahead_counts (172800 * nanosPerSecond) recordings "garden" order
    known (rain.withoutAhead_upTo now)
  rw [half] at rates totals
  have rate : store.source.rainRateAt "garden" now = .ok 4.5 := by decide +kernel
  have rate' : past.source.rainRateAt "garden" now = .ok 1.5 := by decide +kernel
  have total : store.source.dailyRainfallBetween "garden" midnight now = .ok 0.75 := by
    decide +kernel
  have total' : past.source.dailyRainfallBetween "garden" midnight now = .ok 0.25 := by
    decide +kernel
  have more := rates exact (by decide +kernel) 4.5 1.5 rate rate'
  norm_num at more
  exact ⟨order, known, day, rate, rate', more, total, total',
    (totals day 0.75 0.25 total total').1⟩

/-- An inch from a clock that is an hour ahead counts as if it had fallen in the last ten minutes. -/
theorem rain_ahead_not_left_out :
    ¬ ∀ (retention : Int) (recordings : List Recording) (name : String)
      (midnight now : Instant) (rain without : StationRain), 0 ≤ retention → midnight ≤ now →
      (({ retention } : RainStore).afterAll recordings).stations.find? name = some rain →
      rain.WithoutAhead without now →
      let store := ({ retention } : RainStore).afterAll recordings
      let past := store.replaceStation name without
      store.source.rainRateAt name now = past.source.rainRateAt name now ∧
        store.source.dailyRainfallBetween name midnight now =
          past.source.dailyRainfallBetween name midnight now := by
  intro unchanged
  let now := Instant.onSecond 1714521600
  let recordings : List Recording := [.gauge "garden" (.onSecond 1714525200) 1]
  let store := ({ retention := 172800 * nanosPerSecond } : RainStore).afterAll recordings
  have known : store.stations.find? "garden" = some (store.station "garden") := by decide +kernel
  have same := (unchanged _ recordings "garden" now now _ _ (by decide) le_rfl known
    ((store.station "garden").withoutAhead_upTo now)).1
  have rate : store.source.rainRateAt "garden" now = .ok 6 := by decide +kernel
  have rate' : (store.replaceStation "garden" ((store.station "garden").upTo now)).source.rainRateAt
      "garden" now = .ok (-0) := by decide +kernel
  rw [rate, rate'] at same
  have different : (6 : Binary32) ≠ -0 := by decide +kernel
  exact different (Except.ok.inj same)

end RainStore

end WeatherRelay
