import WeatherRelay.Proofs.Binary.Order
import WeatherRelay.Proofs.RainStore.Holding

/-! How the rain of a day grows, and the one way in which it shrinks.

A row behind midnight counts towards the day at all times, first as a row and then in its bucket. The
bucket of a row stamped at midnight belongs to the day before. Such a row counts only as long as it is
looked at by itself: until a bucket of the day has ended with rain in it, and for an hour at most.
-/

set_option autoImplicit false

namespace WeatherRelay

/-- Whether rows stamped at midnight count: no bucket of the day has ended with rain in it, and the
trailing hour reaches back to midnight. -/
def countsMidnight (stored : List RainRow) (midnight now : Instant) : Bool :=
  (now.shift? (-RainSource.lookbackSeconds)).any (· ≤ midnight) &&
    stored.all fun row => row.timestamp ≤ midnight || (bucketEnd? row.timestamp).all (now < ·)

/-- The rows behind midnight that count: all that were stored, or in the first five minutes of the
day, before there are buckets, those that are held. -/
def behindMidnight (held stored : List RainRow) (midnight now : Instant) : List RainRow :=
  (if now.tick < midnight.tick + bucketSeconds * (2 * nanosPerSecond : Nat) then held
    else stored).filter fun row => midnight < row.timestamp

def stampedAt (midnight : Instant) (rows : List RainRow) : List RainRow :=
  rows.filter fun row => row.timestamp = midnight

/-- The rain that counts towards a day. -/
def dayAmount (held stored : List RainRow) (midnight now : Instant) : Rat :=
  rainAmount (behindMidnight held stored midnight now) +
    if countsMidnight stored midnight now then rainAmount (stampedAt midnight held) else 0

theorem behindMidnight_sublist {held stored : List RainRow} (sublist : held.Sublist stored)
    (midnight : Instant) {now later : Instant} (order : now ≤ later) :
    (behindMidnight held stored midnight now).Sublist (behindMidnight held stored midnight later) := by
  rw [Instant.le_iff] at order
  unfold behindMidnight
  apply List.Sublist.filter
  split
  · split
    · exact .refl _
    · exact sublist
  · rw [if_neg (by omega)]

theorem behindMidnight_sublist_stored {held stored : List RainRow} (sublist : held.Sublist stored)
    (midnight now : Instant) : (behindMidnight held stored midnight now).Sublist stored := by
  apply List.filter_sublist.trans
  split
  · exact sublist
  · exact .refl _

/-- What counts later is less only where the rows stamped at midnight made up for more than what came
to count since. -/
theorem dayAmount_le_iff {held stored : List RainRow} {midnight now later : Instant}
    (grows : rainAmount (behindMidnight held stored midnight now) ≤
      rainAmount (behindMidnight held stored midnight later))
    (nonneg : 0 ≤ rainAmount (stampedAt midnight held)) :
    dayAmount held stored midnight now ≤ dayAmount held stored midnight later ↔
      (countsMidnight stored midnight now = true → countsMidnight stored midnight later = true) ∨
        rainAmount (behindMidnight held stored midnight now) + rainAmount (stampedAt midnight held) ≤
          rainAmount (behindMidnight held stored midnight later) := by
  unfold dayAmount
  cases countsMidnight stored midnight now with
  | false =>
    have more : (0 : Rat) ≤ if countsMidnight stored midnight later then
        rainAmount (stampedAt midnight held) else 0 := by
      split
      · exact nonneg
      · exact le_rfl
    simp only [Bool.false_eq_true, if_false, false_implies, true_or, iff_true]
    linarith
  | true =>
    cases countsMidnight stored midnight later with
    | false => simp
    | true => simp [grows]

namespace StationRain

section Day

variable {rain : StationRain} {rows : List RainRow} {midnight now first lookback notBefore : Instant}

/-- The ends of the buckets from one end to another. -/
abbrev endingsWithin (rain : StationRain) (first last : Instant) : List Instant :=
  (rain.bucketsWithin first last).map Prod.fst

/-- Buckets and rows behind them are added up without rounding, whichever of these rows are taken. -/
theorem HoldsFrom.total_eq_round (holds : rain.HoldsFrom rows first) (exact : SumsExactly rows)
    {part : List RainRow} (trailing : part.Sublist
      (rows.filter (trails (rain.endingsWithin first now).getLast? notBefore))) :
    (rain.bucketsWithin first now).foldl (fun total entry => total + entry.2) 0 + rawSum part =
        Binary.round false (rainAmount (rows.filter (inAny (rain.endingsWithin first now))) +
          rainAmount part) ∧
      ((rain.bucketsWithin first now).foldl (fun total entry => total + entry.2) 0 +
          rawSum part).toRat? =
        some (rainAmount (rows.filter (inAny (rain.endingsWithin first now))) +
          rainAmount part) := by
  have bucketed := exact.filter (inAny (rain.endingsWithin first now))
  have total : (rain.bucketsWithin first now).foldl (fun total entry => total + entry.2) 0 =
      Binary.round false (rainAmount (rows.filter (inAny (rain.endingsWithin first now)))) :=
    holds.covers.bucketTotal le_rfl exact
  have held := (exact.filter _).sublist trailing
  -- Both parts together are no more than all rows, of which none is in both.
  let counted (row : RainRow) : Bool := inAny (rain.endingsWithin first now) row ||
    trails (rain.endingsWithin first now).getLast? notBefore row
  have parts : rainAmount (rows.filter (inAny (rain.endingsWithin first now))) +
      rainAmount (rows.filter (trails (rain.endingsWithin first now).getLast? notBefore)) =
        rainAmount (rows.filter counted) := by
    apply rainAmount_filter_add
    · intro row _
      rfl
    · intro row _ inside
      exact holds.covers.not_trails inside notBefore
  have small := (exact.filter counted).small
  have less := rainAmount_le_of_sublist (exact.filter _).counts trailing
  rw [total, Binary.round_false_add (by decide) bucketed.gauged.nonneg
    (bucketed.gauged.single_holds bucketed.small) held.rawSum_toRat?]
  refine ⟨rfl, (bucketed.gauged.add held.gauged).toRat?_round ?_⟩
  rw [← parts] at small
  linarith

/-- The total is that of the rows in the buckets and of the rows behind them. -/
theorem HoldsFrom.total_toRat? (holds : rain.HoldsFrom rows first) (exact : SumsExactly rows) :
    ((rain.bucketsWithin first now).foldl (fun total entry => total + entry.2) 0 +
        rain.incrementalRain (rain.endingsWithin first now).getLast? notBefore).toRat? =
      some (rainAmount (rows.filter (inAny (rain.endingsWithin first now))) +
        rainAmount (rain.rows.filter (trails (rain.endingsWithin first now).getLast? notBefore))) := by
  rw [incrementalRain_eq]
  exact (holds.total_eq_round exact (holds.held.filter _)).2

/-- Rows that trail are behind midnight, or stamped at it. -/
theorem trailing_amount (rows : List RainRow) (after : Option Instant)
    (since : midnight ≤ notBefore) :
    rainAmount (rows.filter fun row => midnight < row.timestamp && trails after notBefore row) +
        rainAmount (rows.filter fun row => row.timestamp = midnight && trails after notBefore row) =
      rainAmount (rows.filter (trails after notBefore)) := by
  apply rainAmount_filter_add
  · intro row _
    cases looked : trails after notBefore row with
    | false => simp
    | true =>
      have young := of_decide_eq_true (Bool.and_eq_true_iff.mp looked).2
      rcases lt_or_eq_of_le (le_trans since young) with behind | stamped
      · simp [behind]
      · simp [← stamped]
  · intro row _ trailing
    have behind := of_decide_eq_true (Bool.and_eq_true_iff.mp trailing).1
    rw [decide_eq_false behind.ne', Bool.false_and]

theorem HoldsFrom.endings_increasing (holds : rain.HoldsFrom rows first) :
    (rain.endingsWithin first now).Pairwise (· < ·) :=
  holds.covers.within_increasing

theorem HoldsFrom.mem_endings (holds : rain.HoldsFrom rows first) {ending : Instant}
    (ends : ending.EndsBucket) {row : RainRow} (member : row ∈ rows)
    (inside : InBucket ending row.timestamp) (fromFirst : first ≤ ending) (toNow : ending ≤ now) :
    ending ∈ rain.endingsWithin first now :=
  holds.covers.mem_within le_rfl ends member inside fromFirst toNow

end Day

section Asked

variable {rain : StationRain} {rows : List RainRow} {midnight now first lookback notBefore : Instant}
  (holds : rain.HoldsFrom rows first) (midnightEnds : midnight.EndsBucket)
  (shifted : midnight.shift? bucketSeconds = some first)
include holds midnightEnds shifted

/-- A row that is behind midnight and all the buckets of the day is behind the first one too, if
that has ended. -/
theorem HoldsFrom.first_le_of_trails (ended : first ≤ now) {row : RainRow} (member : row ∈ rows)
    (bucketed : ∃ bucket, bucketEnd? row.timestamp = some bucket)
    (behind : midnight < row.timestamp)
    (trailing : trails (rain.endingsWithin first now).getLast? notBefore row = true) :
    first ≤ row.timestamp := by
  obtain ⟨bucket, found⟩ := bucketed
  obtain ⟨bucketEnds, inside⟩ := bucketEnd?_eq_some_iff.mp found
  have whole : first ≤ bucket :=
    (midnightEnds.first_le_iff bucketEnds shifted).mpr (lt_of_lt_of_le behind inside.2)
  rw [trails, Bool.and_eq_true, all_getLast?_iff holds.endings_increasing] at trailing
  have running : now < bucket := by
    apply lt_of_not_ge
    intro done
    have held := holds.mem_endings bucketEnds member inside whole done
    exact absurd inside.2 (not_le_of_gt (trailing.1 bucket held))
  exact (inside.after bucketEnds (midnightEnds.next shifted) (lt_of_le_of_lt ended running)).le

variable (lookedBack : now.shift? (-RainSource.lookbackSeconds) = some lookback)
  (bucketed : ∀ row ∈ rows, ∃ bucket, bucketEnd? row.timestamp = some bucket)
include lookedBack bucketed

theorem HoldsFrom.countsMidnight_iff :
    countsMidnight rows midnight now = true ↔
      rain.endingsWithin first now = [] ∧ lookback ≤ midnight := by
  rw [countsMidnight, lookedBack, Bool.and_eq_true, Option.any_some, decide_eq_true_eq, and_comm]
  refine and_congr_left' ?_
  rw [List.all_eq_true]
  constructor
  · intro running
    apply List.eq_nil_iff_forall_not_mem.mpr
    intro ending member
    have ends : ending.EndsBucket := holds.covers.within_ends member
    obtain ⟨fromFirst, toNow⟩ := le_of_mem_within member
    obtain ⟨entry, held, rfl⟩ := List.mem_map.mp member
    have filled := (bucketRain?_eq_some_iff.mp (holds.covers.bucketRain?_within le_rfl held)).1
    obtain ⟨row, among⟩ := List.exists_mem_of_ne_nil _ filled
    obtain ⟨among, within⟩ := List.mem_filter.mp among
    have inside : InBucket entry.1 row.timestamp := of_decide_eq_true within
    have behind : midnight < row.timestamp :=
      inside.after ends midnightEnds ((midnightEnds.first_le_iff ends shifted).mp fromFirst)
    have found := bucketEnd?_eq_some_iff.mpr ⟨ends, inside⟩
    have runs := running row among
    simp only [found, Option.all_some, Bool.or_eq_true, decide_eq_true_eq, not_le_of_gt behind,
      not_lt_of_ge toNow, or_self] at runs
  · intro nothing row member
    obtain ⟨bucket, found⟩ := bucketed row member
    obtain ⟨ends, inside⟩ := bucketEnd?_eq_some_iff.mp found
    simp only [found, Option.all_some, Bool.or_eq_true, decide_eq_true_eq]
    rcases le_or_gt row.timestamp midnight with before | behind
    · exact .inl before
    · right
      apply lt_of_not_ge
      intro done
      have whole : first ≤ bucket :=
        (midnightEnds.first_le_iff ends shifted).mpr (lt_of_lt_of_le behind inside.2)
      have held := holds.mem_endings ends member inside whole done
      rw [nothing] at held
      exact List.not_mem_nil held

/-- The rows of the buckets, and those behind them and midnight. -/
theorem HoldsFrom.behind_amount :
    rainAmount (rows.filter (inAny (rain.endingsWithin first now))) +
        rainAmount (rain.rows.filter fun row => midnight < row.timestamp &&
          trails (rain.endingsWithin first now).getLast? (Instant.later lookback midnight) row) =
      rainAmount (behindMidnight rain.rows rows midnight now) := by
  have place := (Instant.shift?_eq_some_iff midnightEnds.ordinary).mp shifted
  have begins : now < first ↔
      now.tick < midnight.tick + bucketSeconds * (2 * nanosPerSecond : Nat) := by
    simp only [Instant.lt_iff, Instant.tick_eq, bucketSeconds, nanosPerSecond] at *
    omega
  rcases lt_or_ge now first with early | ended
  · -- No bucket of the day has ended, and all rows since midnight are looked at.
    have nothing : rain.endingsWithin first now = [] := by
      apply List.eq_nil_iff_forall_not_mem.mpr
      intro ending member
      obtain ⟨fromFirst, toNow⟩ := le_of_mem_within member
      exact absurd early (not_lt_of_ge (le_trans fromFirst toNow))
    have recent : lookback ≤ midnight := by
      have near := (Instant.shiftNanos?_near lookedBack).1
      have bound := now.nanos_lt
      simp only [RainSource.lookbackSeconds, bucketSeconds, nanosPerSecond, Instant.lt_iff,
        Instant.le_iff, Instant.tick_eq, Instant.position] at *
      omega
    have since : ∀ row ∈ rain.rows, (midnight < row.timestamp &&
        trails none (Instant.later lookback midnight) row) = decide (midnight < row.timestamp) := by
      intro row _
      rw [Bool.eq_iff_iff, Bool.and_eq_true, decide_eq_true_eq, and_iff_left_iff_imp]
      intro behind
      exact decide_eq_true (Instant.later_le_iff.mpr ⟨le_trans recent behind.le, behind.le⟩)
    have noBuckets : rows.filter (inAny []) = [] := by simp [inAny]
    rw [behindMidnight, if_pos (begins.mp early), nothing, noBuckets, List.getLast?_nil,
      List.filter_congr since]
    exact zero_add _
  · rw [behindMidnight, if_neg fun early => absurd ended (not_le_of_gt (begins.mpr early)),
      filter_eq_of_recent holds.recent holds.held]
    · apply rainAmount_filter_add
      · intro row member
        by_cases behind : midnight < row.timestamp
        · rw [decide_eq_true behind, Bool.true_and, ← decide_eq_true behind]
          exact holds.covers.behind_eq midnightEnds le_rfl shifted lookedBack member
            (bucketed row member) behind.ne'
        · rw [decide_eq_false behind, Bool.false_and, Bool.or_false, eq_comm, ← Bool.not_eq_true]
          intro held
          exact behind (holds.covers.behind_of_inAny midnightEnds shifted held)
      · intro row _ held
        have gone : trails (rain.endingsWithin first now).getLast?
            (Instant.later lookback midnight) row = false := holds.covers.not_trails held _
        rw [gone, Bool.and_false]
    · intro row member wanted
      obtain ⟨behind, trailing⟩ := Bool.and_eq_true_iff.mp wanted
      exact decide_eq_true (holds.first_le_of_trails midnightEnds shifted ended member
        (bucketed row member) (of_decide_eq_true behind) trailing)

/-- Of the rows stamped at midnight either all trail the buckets or none does. -/
theorem HoldsFrom.trails_midnight {row : RainRow} (stamped : row.timestamp = midnight) :
    trails (rain.endingsWithin first now).getLast? (Instant.later lookback midnight) row =
      countsMidnight rows midnight now := by
  rw [Bool.eq_iff_iff, holds.countsMidnight_iff midnightEnds shifted lookedBack bucketed, trails,
    Bool.and_eq_true, all_getLast?_iff holds.endings_increasing, decide_eq_true_eq,
    Instant.later_le_iff, stamped]
  constructor
  · rintro ⟨behind, recent, -⟩
    refine ⟨List.eq_nil_iff_forall_not_mem.mpr fun ending member => ?_, recent⟩
    have ends : ending.EndsBucket := holds.covers.within_ends member
    have later := (midnightEnds.first_le_iff ends shifted).mp (le_of_mem_within member).1
    exact lt_asymm later (behind ending member)
  · rintro ⟨nothing, recent⟩
    refine ⟨?_, recent, le_rfl⟩
    rw [nothing]
    exact List.forall_mem_nil _

theorem HoldsFrom.stamped_amount :
    rainAmount (rain.rows.filter fun row => row.timestamp = midnight &&
        trails (rain.endingsWithin first now).getLast? (Instant.later lookback midnight) row) =
      if countsMidnight rows midnight now then rainAmount (stampedAt midnight rain.rows) else 0 := by
  have same : ∀ row ∈ rain.rows, (decide (row.timestamp = midnight) &&
        trails (rain.endingsWithin first now).getLast? (Instant.later lookback midnight) row) =
      (decide (row.timestamp = midnight) && countsMidnight rows midnight now) := by
    intro row _
    by_cases stamped : row.timestamp = midnight
    · rw [holds.trails_midnight midnightEnds shifted lookedBack bucketed stamped]
    · rw [decide_eq_false stamped, Bool.false_and, Bool.false_and]
  rw [List.filter_congr same]
  cases countsMidnight rows midnight now with
  | false => simp [rainAmount]
  | true => simp [stampedAt]

/-- Buckets and trailing rows together are what counts towards the day. -/
theorem HoldsFrom.dayAmount_eq :
    rainAmount (rows.filter (inAny (rain.endingsWithin first now))) +
        rainAmount (rain.rows.filter
          (trails (rain.endingsWithin first now).getLast? (Instant.later lookback midnight))) =
      dayAmount rain.rows rows midnight now := by
  have behind := holds.behind_amount midnightEnds shifted lookedBack bucketed
  have stamped := holds.stamped_amount midnightEnds shifted lookedBack bucketed
  have parts := trailing_amount rain.rows (rain.endingsWithin first now).getLast?
    (Instant.later_le_iff.mp (le_refl (Instant.later lookback midnight))).2
  rw [dayAmount, ← behind, ← stamped, add_assoc, parts]

end Asked

end StationRain

namespace RainStore

/-- What the total of a day is asked of: a station of which nothing behind midnight is expired, with
little enough rain in whole steps. -/
structure AskedDay (retention : Int) (recordings : List Recording) (name : String)
    (midnight : Instant) : Prop where
  midnightEnds : midnight.EndsBucket
  kept : ∀ newest cutoff,
    ((({ retention } : RainStore).afterAll recordings).station name).newest = some newest →
      newest.shiftNanos? (-retention) = some cutoff → cutoff ≤ midnight
  /-- Where there is no cutoff, it would be before the calendar and not behind it. -/
  early : ∀ newest,
    ((({ retention } : RainStore).afterAll recordings).station name).newest = some newest →
      newest.shiftNanos? (-retention) = none → 0 ≤ retention
  exact : SumsExactly (storedRows name recordings)

section Answers

variable {store : RainStore} {name : String} {midnight now : Instant}

theorem dailyRainfallBetween_ok_iff :
    (∃ total, store.source.dailyRainfallBetween name midnight now = .ok total) ↔
      (store.stations.find? name = none ∨ (midnight.shift? bucketSeconds).isSome) ∧
        (now.shift? (-RainSource.lookbackSeconds)).isSome := by
  cases known : store.stations.find? name with
  | none =>
    rw [dailyRainfallBetween_absent known]
    cases (now.shift? (-RainSource.lookbackSeconds)).isSome <;> simp
  | some rain =>
    rw [dailyRainfallBetween_present known]
    cases midnight.shift? bucketSeconds <;>
      cases now.shift? (-RainSource.lookbackSeconds) <;> simp

end Answers

section Growth

variable {retention : Int} {recordings : List Recording} {name : String}
  {midnight now later : Instant}

theorem AskedDay.holdsFrom {first : Instant} (day : AskedDay retention recordings name midnight)
    (shifted : midnight.shift? bucketSeconds = some first) :
    ((({ retention } : RainStore).afterAll recordings).station name).HoldsFrom
      (storedRows name recordings) first :=
  holdsFrom_afterAll (StationRain.expiresBefore_first shifted day.midnightEnds day.kept day.early)

/-- An answer is the rain that counts at the time. -/
theorem AskedDay.toRat?_eq (day : AskedDay retention recordings name midnight) {total : Binary32}
    (answered : (({ retention } : RainStore).afterAll recordings).source.dailyRainfallBetween name
      midnight now = .ok total) :
    total.toRat? = some (dayAmount ((({ retention } : RainStore).afterAll recordings).station
      name).rows (storedRows name recordings) midnight now) := by
  cases known : (({ retention } : RainStore).afterAll recordings).stations.find? name with
  | none =>
    have noRows := find?_afterAll_eq_none_iff.mp known
    rw [dailyRainfallBetween_absent known] at answered
    rw [station_of_find?_none known, noRows]
    split at answered
    · obtain rfl := Except.ok.inj answered
      have nothing : dayAmount [] [] midnight now = 0 := by
        simp [dayAmount, behindMidnight, stampedAt, rainAmount]
      change (0 : Binary32).toRat? = some (dayAmount [] [] midnight now)
      rw [nothing, zero_eq_round]
      exact Gauged.zero.toRat?_round (by norm_num)
    · contradiction
  | some rain =>
    rw [dailyRainfallBetween_present known] at answered
    split at answered
    · next first lookback shifted lookedBack =>
      obtain rfl := Except.ok.inj answered
      have holds := day.holdsFrom shifted
      rw [station_of_find? known] at holds ⊢
      rw [holds.total_toRat? day.exact, holds.dayAmount_eq day.midnightEnds shifted lookedBack
        fun row member => bucketed_of_mem_storedRows member]
    · contradiction

/-- A day of which the newest time of the station expires nothing. -/
theorem askedDay_of_newest {newest cutoff : Instant} (midnightEnds : midnight.EndsBucket)
    (noted : ((({ retention } : RainStore).afterAll recordings).station name).newest = some newest)
    (retained : newest.shiftNanos? (-retention) = some cutoff) (order : cutoff ≤ midnight)
    (exact : SumsExactly (storedRows name recordings)) :
    AskedDay retention recordings name midnight where
  midnightEnds := midnightEnds
  kept other oldest noted' retained' := by
    obtain rfl := Option.some.inj (noted.symm.trans noted')
    obtain rfl := Option.some.inj (retained.symm.trans retained')
    exact order
  early other noted' none := by
    obtain rfl := Option.some.inj (noted.symm.trans noted')
    rw [retained] at none
    contradiction
  exact := exact

/-- Of two answers on a day the second is less if and only if rows stamped at midnight counted the
first time, do not the second time, and were more than what came to count in between. -/
theorem AskedDay.atMost_iff (day : AskedDay retention recordings name midnight)
    (order : now ≤ later) {first second : Binary32}
    (answered : (({ retention } : RainStore).afterAll recordings).source.dailyRainfallBetween name
      midnight now = .ok first)
    (answered' : (({ retention } : RainStore).afterAll recordings).source.dailyRainfallBetween name
      midnight later = .ok second) :
    let held := ((({ retention } : RainStore).afterAll recordings).station name).rows
    let stored := storedRows name recordings
    first.atMost second = true ↔
      (countsMidnight stored midnight now = true → countsMidnight stored midnight later = true) ∨
        rainAmount (behindMidnight held stored midnight now) +
            rainAmount (stampedAt midnight held) ≤
          rainAmount (behindMidnight held stored midnight later) := by
  intro held stored
  have part : held.Sublist stored := rows_sublist_storedRows
  have behind := day.exact.sublist (behindMidnight_sublist_stored part midnight later)
  have stamped : SumsExactly (stampedAt midnight held) :=
    day.exact.sublist (List.filter_sublist.trans part)
  have grows := rainAmount_le_of_sublist behind.counts (behindMidnight_sublist part midnight order)
  rw [Binary.atMost_iff_le (day.toRat?_eq answered) (day.toRat?_eq answered')]
  exact dayAmount_le_iff grows stamped.gauged.nonneg

/-- Without rows stamped at midnight the total of a day never shrinks. -/
theorem AskedDay.grows (day : AskedDay retention recordings name midnight) (order : now ≤ later)
    {first second : Binary32}
    (notMidnight : ∀ row ∈ storedRows name recordings, row.timestamp ≠ midnight)
    (answered : (({ retention } : RainStore).afterAll recordings).source.dailyRainfallBetween name
      midnight now = .ok first)
    (answered' : (({ retention } : RainStore).afterAll recordings).source.dailyRainfallBetween name
      midnight later = .ok second) : first.atMost second = true := by
  apply (day.atMost_iff order answered answered').mpr
  right
  let held := ((({ retention } : RainStore).afterAll recordings).station name).rows
  have part : held.Sublist (storedRows name recordings) := rows_sublist_storedRows
  have nothing : stampedAt midnight held = [] := by
    apply List.filter_eq_nil_iff.mpr
    intro row member stamped
    exact notMidnight row (part.mem member) (of_decide_eq_true stamped)
  have behind := day.exact.sublist (behindMidnight_sublist_stored part midnight later)
  have dry : rainAmount [] = 0 := rfl
  rw [nothing, dry, add_zero]
  exact rainAmount_le_of_sublist behind.counts (behindMidnight_sublist part midnight order)

/-- Asked twice on a day, the total shrinks if and only if rows stamped at midnight counted the first
time, do not the second time, and were more than the rain that came to count in between. -/
theorem dailyRainfallBetween_atMost_iff (day : AskedDay retention recordings name midnight)
    (order : now ≤ later) :
    let store := ({ retention } : RainStore).afterAll recordings
    let held := (store.station name).rows
    let stored := storedRows name recordings
    (∀ time, (∃ total, store.source.dailyRainfallBetween name midnight time = .ok total) ↔
      (store.stations.find? name = none ∨ (midnight.shift? bucketSeconds).isSome) ∧
        (time.shift? (-RainSource.lookbackSeconds)).isSome) ∧
    (behindMidnight held stored midnight now).Sublist (behindMidnight held stored midnight later) ∧
    ∀ first second, store.source.dailyRainfallBetween name midnight now = .ok first →
      store.source.dailyRainfallBetween name midnight later = .ok second →
      first.toRat? = some (dayAmount held stored midnight now) ∧
        second.toRat? = some (dayAmount held stored midnight later) ∧
        (first.atMost second = true ↔
          (countsMidnight stored midnight now = true → countsMidnight stored midnight later = true) ∨
            rainAmount (behindMidnight held stored midnight now) +
                rainAmount (stampedAt midnight held) ≤
              rainAmount (behindMidnight held stored midnight later)) := by
  intro store held stored
  refine ⟨fun time => dailyRainfallBetween_ok_iff,
    behindMidnight_sublist rows_sublist_storedRows midnight order, ?_⟩
  intro first second answered answered'
  exact ⟨day.toRat?_eq answered, day.toRat?_eq answered', day.atMost_iff order answered answered'⟩

/-- A quarter of an inch at midnight and a half seven minutes later. The first bucket of the day with
rain in it ends after ten minutes, and the quarter is gone. -/
theorem dailyRainfallBetween_drops_quarter :
    let midnight := Instant.onSecond 1714521600
    let recordings : List Recording :=
      [.gauge "garden" midnight 0.25, .gauge "garden" (.onSecond 1714522020) 0.5]
    let store := ({ retention := 172800 * nanosPerSecond } : RainStore).afterAll recordings
    AskedDay (172800 * nanosPerSecond) recordings "garden" midnight ∧
      ∃ first second,
        store.source.dailyRainfallBetween "garden" midnight (.onSecond 1714522140) = .ok first ∧
        store.source.dailyRainfallBetween "garden" midnight (.onSecond 1714522260) = .ok second ∧
        first.toRat? = some (3 / 4) ∧ second.toRat? = some (1 / 2) ∧
        first.atMost second = false := by
  intro midnight recordings store
  have latest : (store.station "garden").newest = some (.onSecond 1714522020) := by
    decide +kernel
  have expiry : (Instant.onSecond 1714522020).shiftNanos? (-(172800 * nanosPerSecond)) =
      some (.onSecond 1714349220) := by decide
  have day : AskedDay (172800 * nanosPerSecond) recordings "garden" midnight :=
    askedDay_of_newest (by decide) latest expiry (by decide)
      ⟨by decide +kernel, by decide +kernel⟩
  have order : Instant.onSecond 1714522140 ≤ Instant.onSecond 1714522260 := by decide
  obtain ⟨-, -, compare⟩ := dailyRainfallBetween_atMost_iff day order
  obtain ⟨value, value', atMost⟩ := compare 0.75 0.5 (by decide +kernel) (by decide +kernel)
  have before : dayAmount (store.station "garden").rows (storedRows "garden" recordings) midnight
      (.onSecond 1714522140) = 3 / 4 := by decide +kernel
  have after : dayAmount (store.station "garden").rows (storedRows "garden" recordings) midnight
      (.onSecond 1714522260) = 1 / 2 := by decide +kernel
  refine ⟨day, 0.75, 0.5, by decide +kernel, by decide +kernel, ?_, ?_, ?_⟩
  · exact value.trans (congrArg some before)
  · exact value'.trans (congrArg some after)
  · rw [Bool.eq_false_iff, ne_eq, atMost]
    decide +kernel

/-- An inch stamped at midnight counts at midnight, and two hours later it does not. -/
theorem dailyRainfallBetween_loses_midnight :
    ¬ ∀ (retention : Int) (recordings : List Recording) (name : String)
      (midnight now later : Instant) (first second : Binary32),
      AskedDay retention recordings name midnight → midnight ≤ now → now ≤ later →
      (({ retention } : RainStore).afterAll recordings).source.dailyRainfallBetween name midnight
        now = .ok first →
      (({ retention } : RainStore).afterAll recordings).source.dailyRainfallBetween name midnight
        later = .ok second →
      first.atMost second = true := by
  intro grows
  let midnight := Instant.onSecond 1714521600
  let recordings : List Recording := [.gauge "garden" midnight 1]
  have latest : ((({ retention := 172800 * nanosPerSecond } : RainStore).afterAll
      recordings).station "garden").newest = some midnight := rfl
  have expiry : midnight.shiftNanos? (-(172800 * nanosPerSecond)) =
      some (.onSecond 1714348800) := by decide
  have day : AskedDay (172800 * nanosPerSecond) recordings "garden" midnight :=
    askedDay_of_newest (by decide) latest expiry (by decide)
      ⟨by decide +kernel, by decide +kernel⟩
  have atMost := grows _ _ _ _ midnight (.onSecond 1714528800) 1 0 day le_rfl (by decide)
    (by decide +kernel) (by decide +kernel)
  have less : (1 : Binary32).atMost 0 = false := by decide +kernel
  rw [less] at atMost
  contradiction

end Growth

end RainStore

end WeatherRelay
