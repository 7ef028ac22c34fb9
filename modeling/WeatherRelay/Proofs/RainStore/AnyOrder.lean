import WeatherRelay.Proofs.RainStore.DayGrowth

/-! Queries that do not depend on the order of arrival.

Readings that arrive in another order are expired at other moments, and leave other rows and buckets
behind. From the greatest time stamp less the retention on, all of them are there in any order, and
without rounding their sums are the same.
-/

set_option autoImplicit false

namespace WeatherRelay

/-- The greatest time stamp of some rows less the retention, where that is within the calendar. -/
def cutoff? (retention : Int) (rows : List RainRow) : Option Instant :=
  (rows.map RainRow.timestamp).max?.bind fun greatest => greatest.shiftNanos? (-retention)

/-- The rows in the buckets that start at or after `since` and end at or before `upTo`. -/
def bucketedWithin (since upTo : Instant) (rows : List RainRow) : List RainRow :=
  rows.filter fun row => (bucketEnd? row.timestamp).any fun ending =>
    since.tick ≤ ending.tick - bucketSeconds * (2 * nanosPerSecond : Nat) && ending ≤ upTo

/-- The end of the last bucket that holds one of the rows. -/
def lastEnding? (rows : List RainRow) : Option Instant :=
  (rows.filterMap fun row => bucketEnd? row.timestamp).max?

/-- A reading that is not stamped ahead of the clock, nor in a leap second. -/
def Recording.Punctual (recording : Recording) : Prop :=
  recording.row.timestamp.Ordinary ∧ recording.row.timestamp ≤ recording.clock

instance (recording : Recording) : Decidable recording.Punctual :=
  inferInstanceAs (Decidable (_ ∧ _))

theorem Recording.Punctual.seen_eq {recording : Recording} (punctual : recording.Punctual) :
    recording.seen = recording.row.timestamp :=
  if_pos punctual.2

/-! ### Any order of the rows -/

theorem max?_congr {left right : List Instant} (same : ∀ time, time ∈ left ↔ time ∈ right) :
    left.max? = right.max? := by
  apply Option.ext
  intro greatest
  rw [List.max?_eq_some_iff, List.max?_eq_some_iff]
  simp only [same]

theorem getLast?_eq_max? {endings : List Instant} (increasing : endings.Pairwise (· < ·)) :
    endings.getLast? = endings.max? := by
  rcases endings.eq_nil_or_concat' with rfl | ⟨earlier, last, rfl⟩
  · rfl
  · have before := (List.pairwise_append.mp increasing).2.2
    rw [List.getLast?_concat, eq_comm, List.max?_eq_some_iff]
    refine ⟨by simp, ?_⟩
    intro ending member
    rcases List.mem_append.mp member with early | same
    · exact (before ending early last (by simp)).le
    · exact (List.mem_singleton.mp same).le

section Perm

variable {left right : List RainRow}

theorem rainAmount_perm (same : left.Perm right) : rainAmount left = rainAmount right :=
  (same.map RainRow.amount).sum_eq

theorem bucketedWithin_perm (same : left.Perm right) (since upTo : Instant) :
    (bucketedWithin since upTo left).Perm (bucketedWithin since upTo right) :=
  same.filter _

theorem lastEnding?_perm (same : left.Perm right) : lastEnding? left = lastEnding? right :=
  max?_congr fun _ => (same.filterMap _).mem_iff

theorem cutoff?_perm (retention : Int) (same : left.Perm right) :
    cutoff? retention left = cutoff? retention right := by
  unfold cutoff?
  rw [max?_congr fun _ => (same.map RainRow.timestamp).mem_iff]

theorem SumsExactly.perm (exact : SumsExactly left) (same : left.Perm right) :
    SumsExactly right where
  counts row member := exact.counts row (same.mem_iff.mpr member)
  small := rainAmount_perm same ▸ exact.small

theorem SumsExactly.rawSum_perm (exact : SumsExactly left) (same : left.Perm right) :
    rawSum left = rawSum right := by
  rw [rawSum_eq, rawSum_eq, same.all_eq, exact.rainSum_eq_round,
    (exact.perm same).rainSum_eq_round, rainAmount_perm same]

end Perm

/-- What is stored of some readings does not depend on the clock. -/
theorem storedRows_eq (name : String) (recordings : List Recording) :
    storedRows name recordings =
      ((((recordings.map Recording.reading).filter fun reading => reading.stationName = name).map
        fun reading => ⟨reading.timestamp, reading.rainIncremental⟩).filter
          fun row => (bucketEnd? row.timestamp).isSome) := by
  -- Of a recording only the reading tells whether its row is stored.
  have alone : (recordings.map Recording.reading).filter (fun reading => reading.stationName = name) =
      (arrivals name recordings).map Recording.reading := List.filter_map
  rw [alone, List.map_map]
  rfl

theorem storedRows_perm {first second : List Recording} (name : String)
    (same : (first.map Recording.reading).Perm (second.map Recording.reading)) :
    (storedRows name first).Perm (storedRows name second) := by
  rw [storedRows_eq, storedRows_eq]
  exact ((same.filter _).map _).filter _

/-! ### What is held -/

/-- No row reaches further back than the greatest one. -/
theorem exists_cutoff? {retention : Int} {rows : List RainRow} {row : RainRow} {oldest : Instant}
    (nonneg : 0 ≤ retention) (ordinary : ∀ other ∈ rows, other.timestamp.Ordinary)
    (member : row ∈ rows) (moved : row.timestamp.shiftNanos? (-retention) = some oldest) :
    ∃ cutoff, cutoff? retention rows = some cutoff ∧ oldest ≤ cutoff := by
  have stamped := List.mem_map_of_mem (f := RainRow.timestamp) member
  cases found : (rows.map RainRow.timestamp).max? with
  | none =>
    rw [List.max?_eq_none_iff.mp found] at stamped
    exact absurd stamped List.not_mem_nil
  | some greatest =>
    obtain ⟨isStamp, above⟩ := List.max?_eq_some_iff.mp found
    obtain ⟨last, lastMember, rfl⟩ := List.mem_map.mp isStamp
    have order := above row.timestamp stamped
    -- Going back from a later time stays within the calendar if it does from an earlier one.
    have position := (Instant.le_iff_position (ordinary row member) (ordinary last lastMember)).mp order
    have reaches := (Instant.shiftNanos?_back_isSome_iff nonneg).mp (Option.isSome_of_eq_some moved)
    have inside : (last.timestamp.shiftNanos? (-retention)).isSome :=
      (Instant.shiftNanos?_back_isSome_iff nonneg).mpr (by omega)
    obtain ⟨cutoff, lastMoved⟩ := Option.isSome_iff_exists.mp inside
    refine ⟨cutoff, ?_, Instant.shiftNanos?_le_of_le (ordinary row member)
      (ordinary last lastMember) moved lastMoved order⟩
    rw [cutoff?, found]
    exact lastMoved

namespace StationRain

/-- Rows that are asked for by either bound are not older than what is kept. -/
theorem exists_bound {cutoff after : Option Instant} {notBefore : Instant}
    (kept : ∀ oldest, cutoff = some oldest →
      oldest ≤ notBefore ∨ ∃ start, after = some start ∧ oldest ≤ start) :
    ∃ bound, (∀ oldest, cutoff = some oldest → oldest ≤ bound) ∧
      ∀ row, trails after notBefore row = true → bound ≤ row.timestamp := by
  have notOlder (row : RainRow) (wanted : trails after notBefore row = true) :
      notBefore ≤ row.timestamp := of_decide_eq_true (Bool.and_eq_true_iff.mp wanted).2
  cases cutoff with
  | none => exact ⟨notBefore, by simp, notOlder⟩
  | some oldest =>
    refine ⟨oldest, by simp, ?_⟩
    intro row wanted
    rcases kept oldest rfl with order | ⟨start, rfl, order⟩
    · exact le_trans order (notOlder row wanted)
    · exact le_trans order (of_decide_eq_true (Bool.and_eq_true_iff.mp wanted).1).le

section Window

variable {rain : StationRain} {rows : List RainRow} {since upTo first : Instant}

/-- Whether a bucket starts in time, by its start and by its end. -/
theorem first_le_iff_start (shifted : since.shift? bucketSeconds = some first) {ending : Instant}
    (ends : ending.EndsBucket) : first ≤ ending ↔
      since.tick ≤ ending.tick - bucketSeconds * (2 * nanosPerSecond : Nat) := by
  -- A leap second is left with the second before it, and no bucket ends in either.
  have below := since.nanos_lt
  have at59 := since.leap_only_at_59
  simp only [Instant.shift?, Instant.shiftNanos?, Instant.isLeapSecond, Instant.after?,
    bucketSeconds, nanosPerSecond, decide_eq_true_eq, Bool.and_eq_true] at shifted below at59
  simp only [Instant.EndsBucket, Instant.le_iff, Instant.tick_eq, bucketSeconds,
    nanosPerSecond] at *
  split at shifted
  · rw [if_neg (by omega), if_neg (by omega)] at shifted
    obtain ⟨seconds, nanos⟩ := Instant.ofParts?_eq_some_iff.mp shifted
    omega
  · obtain ⟨seconds, nanos⟩ := Instant.ofParts?_eq_some_iff.mp shifted
    omega

variable (holds : rain.HoldsFrom rows first) (shifted : since.shift? bucketSeconds = some first)
  (bucketed : ∀ row ∈ rows, ∃ bucket, bucketEnd? row.timestamp = some bucket)
include holds shifted bucketed

theorem HoldsFrom.filter_inAny :
    rows.filter (inAny (rain.endingsWithin first upTo)) = bucketedWithin since upTo rows := by
  apply List.filter_congr
  intro row member
  obtain ⟨bucket, found⟩ := bucketed row member
  obtain ⟨bucketEnds, inside⟩ := bucketEnd?_eq_some_iff.mp found
  rw [found, Option.any_some, Bool.eq_iff_iff, inAny_iff, Bool.and_eq_true, decide_eq_true_eq,
    decide_eq_true_eq, ← first_le_iff_start shifted bucketEnds]
  constructor
  · rintro ⟨ending, held, alsoInside⟩
    have ends : ending.EndsBucket := holds.covers.within_ends held
    rw [inside.unique bucketEnds ends alsoInside]
    exact le_of_mem_within held
  · rintro ⟨fromFirst, toLast⟩
    exact ⟨bucket, holds.mem_endings bucketEnds member inside fromFirst toLast, inside⟩

theorem HoldsFrom.getLast?_eq_lastEnding? :
    (rain.endingsWithin first upTo).getLast? = lastEnding? (bucketedWithin since upTo rows) := by
  rw [getLast?_eq_max? holds.endings_increasing, ← holds.filter_inAny shifted bucketed]
  apply max?_congr
  intro ending
  rw [List.mem_filterMap]
  constructor
  · intro member
    have ends : ending.EndsBucket := holds.covers.within_ends member
    obtain ⟨entry, held, rfl⟩ := List.mem_map.mp member
    have filled := (bucketRain?_eq_some_iff.mp (holds.covers.bucketRain?_within le_rfl held)).1
    obtain ⟨row, among⟩ := List.exists_mem_of_ne_nil _ filled
    obtain ⟨stored, inside⟩ := List.mem_filter.mp among
    refine ⟨row, List.mem_filter.mpr ⟨stored, inAny_iff.mpr ⟨entry.1, member, ?_⟩⟩, ?_⟩
    · exact of_decide_eq_true inside
    · exact bucketEnd?_eq_some_iff.mpr ⟨ends, of_decide_eq_true inside⟩
  · rintro ⟨row, among, found⟩
    obtain ⟨other, member, inside⟩ := inAny_iff.mp (List.mem_filter.mp among).2
    have ends : other.EndsBucket := holds.covers.within_ends member
    have same := found.symm.trans (bucketEnd?_eq_some_iff.mpr ⟨ends, inside⟩)
    rwa [Option.some.inj same]

/-- The buckets answer for the rows in them. -/
theorem HoldsFrom.periodRain_eq (exact : SumsExactly rows) :
    rain.periodRain since upTo =
      .ok ⟨Binary.round false (rainAmount (bucketedWithin since upTo rows)),
        lastEnding? (bucketedWithin since upTo rows)⟩ := by
  have total : (rain.bucketsWithin first upTo).foldl (fun total entry => total + entry.2) 0 =
      Binary.round false (rainAmount (rows.filter (inAny (rain.endingsWithin first upTo)))) :=
    holds.covers.bucketTotal le_rfl exact
  rw [StationRain.periodRain_eq shifted, total, holds.filter_inAny shifted bucketed,
    holds.getLast?_eq_lastEnding? shifted bucketed]

end Window

end StationRain

namespace RainStore

theorem periodRain_outside {retention : Int} {recordings : List Recording} {name : String}
    {since : Instant} (upTo : Instant) (outside : since.shift? bucketSeconds = none) :
    (({ retention } : RainStore).afterAll recordings).periodRain name since upTo =
      if storedRows name recordings = [] then .ok {} else .error .crash := by
  unfold periodRain
  cases known : (({ retention } : RainStore).afterAll recordings).stations.find? name with
  | none => rw [if_pos (find?_afterAll_eq_none_iff.mp known)]
  | some rain =>
    have stored : storedRows name recordings ≠ [] := fun empty => by
      simp [find?_afterAll_eq_none_iff.mpr empty] at known
    rw [if_neg stored]
    exact StationRain.periodRain_crash outside

section Punctual

variable {retention : Int} {recordings : List Recording} {name : String}
  (nonneg : 0 ≤ retention) (punctual : ∀ recording ∈ recordings, recording.Punctual)
include nonneg punctual

theorem holdsFrom_of_punctual {bound : Instant}
    (kept : ∀ cutoff, cutoff? retention (storedRows name recordings) = some cutoff → cutoff ≤ bound) :
    ((({ retention } : RainStore).afterAll recordings).station name).HoldsFrom
      (storedRows name recordings) bound := by
  apply holdsFrom_of_seen
  intro recording member stored oldest moved
  -- What a recording expires is before its own time stamp less the retention.
  have inTime := punctual recording (List.mem_of_mem_filter member)
  have among : recording.row ∈ storedRows name recordings :=
    List.mem_filter.mpr ⟨List.mem_map_of_mem member, stored⟩
  have ordinary : ∀ row ∈ storedRows name recordings, row.timestamp.Ordinary := by
    intro row held
    obtain ⟨other, arrived, rfl⟩ := List.mem_map.mp (List.mem_of_mem_filter held)
    exact (punctual other (List.mem_of_mem_filter arrived)).1
  rw [inTime.seen_eq] at moved
  obtain ⟨cutoff, found, order⟩ := exists_cutoff? nonneg ordinary among moved
  exact le_trans order (kept cutoff found)

theorem periodRain_of_punctual (exact : SumsExactly (storedRows name recordings))
    {since first : Instant} (upTo : Instant) (shifted : since.shift? bucketSeconds = some first)
    (kept : ∀ cutoff, cutoff? retention (storedRows name recordings) = some cutoff → cutoff ≤ first) :
    (({ retention } : RainStore).afterAll recordings).periodRain name since upTo =
      .ok ⟨Binary.round false (rainAmount (bucketedWithin since upTo (storedRows name recordings))),
        lastEnding? (bucketedWithin since upTo (storedRows name recordings))⟩ := by
  have holds := holdsFrom_of_punctual nonneg punctual kept
  unfold periodRain
  cases known : (({ retention } : RainStore).afterAll recordings).stations.find? name with
  | none =>
    have nothing : ({} : PeriodRain) = ⟨Binary.round false (rainAmount []), none⟩ := by
      rw [rainAmount, List.map_nil, List.sum_nil, ← zero_eq_round]
    rw [find?_afterAll_eq_none_iff.mp known]
    exact congrArg Except.ok nothing
  | some rain =>
    rw [station_of_find? known] at holds
    exact holds.periodRain_eq shifted (fun row => bucketed_of_mem_storedRows) exact

theorem incrementalRain_of_punctual {after : Option Instant} {notBefore : Instant}
    (kept : ∀ cutoff, cutoff? retention (storedRows name recordings) = some cutoff →
      cutoff ≤ notBefore ∨ ∃ start, after = some start ∧ cutoff ≤ start) :
    (({ retention } : RainStore).afterAll recordings).incrementalRain name after notBefore =
      .ok (if storedRows name recordings = [] then 0
        else rawSum ((storedRows name recordings).filter (StationRain.trails after notBefore))) := by
  obtain ⟨bound, reached, young⟩ := StationRain.exists_bound kept
  have holds := holdsFrom_of_punctual nonneg punctual reached
  have same : ((({ retention } : RainStore).afterAll recordings).station name).rows.filter
      (StationRain.trails after notBefore) =
        (storedRows name recordings).filter (StationRain.trails after notBefore) :=
    filter_eq_of_recent holds.recent holds.held fun row _ wanted => decide_eq_true (young row wanted)
  rw [← same, ← StationRain.incrementalRain_eq]
  unfold incrementalRain
  cases known : (({ retention } : RainStore).afterAll recordings).stations.find? name with
  | none => rw [if_pos (find?_afterAll_eq_none_iff.mp known)]
  | some rain =>
    have stored : storedRows name recordings ≠ [] := fun nothing => by
      rw [find?_afterAll_eq_none_iff.mpr nothing] at known
      cases known
    rw [if_neg stored, station_of_find? known]

end Punctual

/-- Whatever the order in which readings arrive, queries that reach back no further than the retention
before the greatest of their time stamps find the same: the rows of the buckets asked for with the end
of the last one, and the rows asked for, without rounding. -/
theorem queries_in_any_order {retention : Int} (nonneg : 0 ≤ retention)
    {first second : List Recording}
    (same : (first.map Recording.reading).Perm (second.map Recording.reading))
    (punctual : ∀ recording ∈ first ++ second, recording.Punctual) {name : String}
    (exact : SumsExactly (storedRows name first)) :
    let left := ({ retention } : RainStore).afterAll first
    let right := ({ retention } : RainStore).afterAll second
    let rows := storedRows name first
    (∀ since upTo,
      (∀ start cutoff, since.shift? bucketSeconds = some start →
        cutoff? retention rows = some cutoff → cutoff ≤ start) →
      left.periodRain name since upTo = right.periodRain name since upTo ∧
      ∀ start, since.shift? bucketSeconds = some start →
        ∃ period, left.periodRain name since upTo = .ok period ∧
          period.total.toRat? = some (rainAmount (bucketedWithin since upTo rows)) ∧
          period.lastBucket = lastEnding? (bucketedWithin since upTo rows)) ∧
    ∀ after notBefore,
      (∀ cutoff, cutoff? retention rows = some cutoff →
        cutoff ≤ notBefore ∨ ∃ start, after = some start ∧ cutoff ≤ start) →
      left.incrementalRain name after notBefore = right.incrementalRain name after notBefore ∧
      ∃ total, left.incrementalRain name after notBefore = .ok total ∧
        total.toRat? = some (rainAmount (rows.filter (StationRain.trails after notBefore))) := by
  intro left right rows
  have reordered : rows.Perm (storedRows name second) := storedRows_perm name same
  have inTime : ∀ recording ∈ first, recording.Punctual :=
    fun recording member => punctual recording (List.mem_append_left _ member)
  have inTime' : ∀ recording ∈ second, recording.Punctual :=
    fun recording member => punctual recording (List.mem_append_right _ member)
  have empty : storedRows name first = [] ↔ storedRows name second = [] := by
    rw [← List.length_eq_zero_iff, ← List.length_eq_zero_iff, reordered.length_eq]
  refine ⟨?period, ?rows⟩
  case period =>
    intro since upTo kept
    cases shifted : since.shift? bucketSeconds with
    | none =>
      refine ⟨?_, by simp⟩
      rw [periodRain_outside upTo shifted, periodRain_outside upTo shifted]
      simp only [empty]
    | some start =>
      -- Each order answers for the rows stored in it, and these are the same rows.
      have answer := periodRain_of_punctual nonneg inTime exact upTo shifted fun cutoff =>
        kept start cutoff shifted
      have answer' := periodRain_of_punctual nonneg inTime' (exact.perm reordered) upTo shifted
        fun cutoff found => kept start cutoff shifted (cutoff?_perm retention reordered ▸ found)
      have within := bucketedWithin_perm reordered since upTo
      rw [← rainAmount_perm within, ← lastEnding?_perm within] at answer'
      refine ⟨answer.trans answer'.symm, ?_⟩
      rintro _ -
      exact ⟨_, answer, (exact.filter _).gauged.toRat?_round (exact.filter _).small, rfl⟩
  case rows =>
    intro after notBefore kept
    have answer := incrementalRain_of_punctual nonneg inTime kept
    have answer' := incrementalRain_of_punctual nonneg inTime'
      fun cutoff found => kept cutoff (cutoff?_perm retention reordered ▸ found)
    rw [← (exact.filter _).rawSum_perm (reordered.filter _), ← if_congr empty rfl rfl] at answer'
    refine ⟨answer.trans answer'.symm, _, answer, ?_⟩
    split
    case isTrue nothing =>
      simp only [rows, nothing, List.filter_nil]
      decide +kernel
    case isFalse => exact (exact.filter _).rawSum_toRat?

/-- The same four rows in both directions, of which the retention leaves two. Other rows are held
after each, but the rows that are left are found in both, in their buckets and by themselves. -/
theorem queries_in_reverse :
    let run := Recording.gaugedRun
    let retention : Int := 3600 * nanosPerSecond
    let left := ({ retention } : RainStore).afterAll run
    let right := ({ retention } : RainStore).afterAll run.reverse
    let since := Instant.onSecond 1714521930
    let start := Instant.onSecond 1714522230
    let now := Instant.onSecond 1714526100
    (∀ recording ∈ run ++ run.reverse, recording.Punctual) ∧
      SumsExactly (storedRows "garden" run) ∧ since.shift? bucketSeconds = some start ∧
      cutoff? retention (storedRows "garden" run) = some start ∧
      (left.station "garden").rows ≠ (right.station "garden").rows ∧
      left.periodRain "garden" since now = .ok ⟨0.625, some now⟩ ∧
      right.periodRain "garden" since now = .ok ⟨0.625, some now⟩ ∧
      left.incrementalRain "garden" none start = .ok 0.625 ∧
      right.incrementalRain "garden" none start = .ok 0.625 := by
  intro run retention left right since start now
  have punctual : ∀ recording ∈ run ++ run.reverse, recording.Punctual := by decide +kernel
  have exact : SumsExactly (storedRows "garden" run) := ⟨by decide +kernel, by decide +kernel⟩
  have shifted : since.shift? bucketSeconds = some start := by decide +kernel
  have reached : cutoff? retention (storedRows "garden" run) = some start := by decide +kernel
  have same : (run.map Recording.reading).Perm (run.reverse.map Recording.reading) :=
    run.reverse_perm.symm.map Recording.reading
  obtain ⟨periods, totals⟩ := queries_in_any_order (by decide : 0 ≤ retention) same punctual exact
  have within : ∀ first cutoff, since.shift? bucketSeconds = some first →
      cutoff? retention (storedRows "garden" run) = some cutoff → cutoff ≤ first := by
    intro first cutoff isFirst isCutoff
    rw [← Option.some.inj (shifted.symm.trans isFirst),
      ← Option.some.inj (reached.symm.trans isCutoff)]
  have period := (periods since now within).1
  have rows := (totals none start fun cutoff found =>
    .inl (Option.some.inj (reached.symm.trans found)).ge).1
  have answer : left.periodRain "garden" since now = .ok ⟨0.625, some now⟩ := by decide +kernel
  have total : left.incrementalRain "garden" none start = .ok 0.625 := by decide +kernel
  exact ⟨punctual, exact, shifted, reached, by decide +kernel, answer, period.symm.trans answer,
    total, rows.symm.trans total⟩

end RainStore

end WeatherRelay
