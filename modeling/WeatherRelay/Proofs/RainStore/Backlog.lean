import WeatherRelay.Proofs.RainStore.Holding

/-! What holds up the expiry of rows.

Rows go from the front only, so that a row stays until all before it are too old. A row from a clock
that is ahead is too old only after the newest time has passed it by the retention. Until then
nothing that arrived after it goes, while the buckets, which stand in the order of time, expire as
ever.
-/

set_option autoImplicit false

namespace WeatherRelay

namespace Recording

/-- A row from a clock that is a year ahead, and one in time. -/
def yearAhead : List Recording :=
  [{ gauge "garden" (.onSecond 1746057600) 0.25 with clock := .onSecond 1714521600 },
    { gauge "garden" (.onSecond 1714521660) 0.5 with clock := .onSecond 1714521660 }]

/-- A row in time, three days after the others. -/
def threeDaysLater : Recording :=
  { gauge "garden" (.onSecond 1714780800) 0.125 with clock := .onSecond 1714780800 }

end Recording

/-- Each row that is too old arrived after one that is still to be retained: neither older than the
cutoff nor ahead of the newest time. -/
def KeptByRetained (cutoff newest : Instant) (rows : List RainRow) : Prop :=
  ∀ held old rest, rows = held ++ old :: rest → old.timestamp < cutoff →
    ∃ row ∈ held, cutoff ≤ row.timestamp ∧ row.timestamp ≤ newest

/-- Not too old, but only because it is ahead of the newest time. -/
def isAheadOf (cutoff newest : Instant) (row : RainRow) : Bool :=
  cutoff ≤ row.timestamp && newest < row.timestamp

section Rows

variable {cutoff newest : Instant} {rows : List RainRow}

/-- What matters is the first row behind those ahead at the front. -/
theorem keptByRetained_of_head? (young : ∀ first,
      (rows.dropWhile (isAheadOf cutoff newest)).head? = some first → cutoff ≤ first.timestamp) :
    KeptByRetained cutoff newest rows := by
  intro held old rest parts tooOld
  induction rows generalizing held with
  | nil => simp at parts
  | cons row others ih =>
    have reached : cutoff ≤ row.timestamp := by
      by_cases ahead : isAheadOf cutoff newest row = true
      · exact of_decide_eq_true (Bool.and_eq_true_iff.mp ahead).1
      · exact young row (by rw [List.dropWhile_cons_of_neg ahead]; rfl)
    cases held with
    | nil =>
      obtain ⟨rfl, -⟩ := List.cons.inj parts
      exact absurd reached (not_le_of_gt tooOld)
    | cons front held =>
      -- Either the front row is the one to be retained, or it is ahead and the rest goes on alike.
      by_cases inTime : row.timestamp ≤ newest
      · exact ⟨row, (List.cons.inj parts).1 ▸ List.mem_cons_self, reached, inTime⟩
      · have ahead : isAheadOf cutoff newest row = true := by
          simp [isAheadOf, reached, lt_of_not_ge inTime]
        rw [List.dropWhile_cons_of_pos ahead] at young
        obtain ⟨found, member, between⟩ := ih young held (List.cons.inj parts).2
        exact ⟨found, List.mem_cons_of_mem _ member, between⟩

theorem not_keptByRetained_iff (front : ∀ row, rows.head? = some row → cutoff ≤ row.timestamp) :
    ¬ KeptByRetained cutoff newest rows ↔ ∃ ahead old rest, ahead ≠ [] ∧
      rows = ahead ++ old :: rest ∧ (∀ row ∈ ahead, newest < row.timestamp) ∧
      (∀ row ∈ ahead, cutoff ≤ row.timestamp) ∧ old.timestamp < cutoff := by
  constructor
  · intro notKept
    have behind := mt keptByRetained_of_head? notKept
    push Not at behind
    obtain ⟨old, found, tooOld⟩ := behind
    obtain ⟨rest, dropped⟩ := List.head?_eq_some_iff.mp found
    have parts := List.takeWhile_append_dropWhile (p := isAheadOf cutoff newest) (l := rows)
    rw [dropped] at parts
    have isAhead : ∀ row ∈ rows.takeWhile (isAheadOf cutoff newest),
        isAheadOf cutoff newest row = true := fun row => List.mem_takeWhile_imp
    simp only [isAheadOf, Bool.and_eq_true, decide_eq_true_eq] at isAhead
    refine ⟨_, old, rest, ?_, parts.symm, fun row member => (isAhead row member).2,
      fun row member => (isAhead row member).1, tooOld⟩
    intro nothing
    rw [nothing] at parts
    exact absurd (front old (by rw [← parts]; rfl)) (not_le_of_gt tooOld)
  · rintro ⟨ahead, old, rest, -, parts, isAhead, -, tooOld⟩ kept
    obtain ⟨row, member, -, inTime⟩ := kept ahead old rest parts tooOld
    exact absurd inTime (not_le_of_gt (isAhead row member))

theorem keptByRetained_of_le (front : ∀ row, rows.head? = some row → cutoff ≤ row.timestamp)
    (inTime : ∀ row ∈ rows, row.timestamp ≤ newest) : KeptByRetained cutoff newest rows := by
  by_contra notKept
  obtain ⟨ahead, old, rest, nonempty, rfl, isAhead, -⟩ := (not_keptByRetained_iff front).mp notKept
  obtain ⟨row, member⟩ := List.exists_mem_of_ne_nil _ nonempty
  exact absurd (inTime row (List.mem_append_left _ member)) (not_le_of_gt (isAhead row member))

theorem suffix_dropWhile {front : RainRow} {later : List RainRow} {old : RainRow → Bool}
    (held : front :: later <:+ rows) (young : old front = false) :
    front :: later <:+ rows.dropWhile old := by
  obtain ⟨before, rfl⟩ := held
  rw [List.dropWhile_append]
  split
  · rw [List.dropWhile_cons_of_neg (by simp [young])]
  · exact List.suffix_append _ _

end Rows

namespace StationRain

/-- What is left of some rows right after the expiry for a newest time. A row that is too old is held
behind one to be retained, unless it comes right behind rows that are ahead and stand at the front. -/
structure Expired (rain : StationRain) (stored : List RainRow) (cutoff newest : Instant) : Prop where
  latest : rain.rows <:+ stored
  front : ∀ row, rain.rows.head? = some row → cutoff ≤ row.timestamp
  buckets : ∀ entry ∈ rain.buckets.entries, cutoff ≤ entry.1
  kept_of_le : (∀ row ∈ rain.rows, row.timestamp ≤ newest) →
    KeptByRetained cutoff newest rain.rows
  stalled_iff : ¬ KeptByRetained cutoff newest rain.rows ↔ ∃ ahead old rest, ahead ≠ [] ∧
    rain.rows = ahead ++ old :: rest ∧ (∀ row ∈ ahead, newest < row.timestamp) ∧
    (∀ row ∈ ahead, cutoff ≤ row.timestamp) ∧ old.timestamp < cutoff

theorem expired_prune {rain : StationRain} {stored : List RainRow} {cutoff : Instant}
    (latest : rain.rows <:+ stored) (increasing : rain.buckets.Increasing) (newest : Instant) :
    (rain.prune cutoff).Expired stored cutoff newest := by
  have front : ∀ row, (rain.prune cutoff).rows.head? = some row → cutoff ≤ row.timestamp := by
    intro row found
    have stopped := List.head?_dropWhile_not (fun row : RainRow => row.timestamp < cutoff) rain.rows
    change (rain.rows.dropWhile _).head? = some row at found
    rw [found] at stopped
    exact le_of_not_gt (of_decide_eq_false stopped)
  exact ⟨(List.dropWhile_suffix _).trans latest, front,
    fun entry => Table.le_of_mem_dropBelow increasing, keptByRetained_of_le front,
    not_keptByRetained_iff front⟩

/-- Nothing from a row on goes while that row is not too old. -/
theorem suffix_expire {rain : StationRain} {front : RainRow} {later : List RainRow} {retention : Int}
    {seen : Instant} (held : front :: later <:+ rain.rows)
    (young : ∀ cutoff, seen.shiftNanos? (-retention) = some cutoff → cutoff ≤ front.timestamp) :
    front :: later <:+ (rain.expire retention seen).2.rows := by
  rcases rain.expire_cases retention seen with ⟨-, same⟩ | ⟨-, cutoff, moved, same⟩ | ⟨-, -, same⟩
  · exact same ▸ held
  · exact same ▸ suffix_dropWhile held (decide_eq_false (not_lt_of_ge (young cutoff moved)))
  · exact same ▸ held

/-- An expiry that changed the newest time expired for that time. -/
theorem expire_of_newest_ne {rain : StationRain} {retention : Int} {seen newest cutoff : Instant}
    (advanced : rain.newest ≠ (rain.expire retention seen).2.newest)
    (noted : (rain.expire retention seen).2.newest = some newest)
    (moved : newest.shiftNanos? (-retention) = some cutoff) :
    (rain.expire retention seen).2 =
      ({ rain with newest := some newest } : StationRain).prune cutoff := by
  rcases rain.expire_cases retention seen with ⟨-, same⟩ | ⟨-, oldest, moved', same⟩ |
    ⟨-, outside, same⟩
  · rw [same] at advanced
    exact absurd rfl advanced
  · rw [same] at noted ⊢
    obtain rfl := Option.some.inj noted
    rw [Option.some.inj (moved'.symm.trans moved)]
  · rw [same] at noted
    obtain rfl := Option.some.inj noted
    rw [outside] at moved
    contradiction

end StationRain

namespace RainStore

variable {retention : Int} {name : String}

theorem expired_of_newest_ne {earlier : List Recording} {last : Recording} {newest cutoff : Instant}
    (advanced : ((({ retention } : RainStore).afterAll earlier).station name).newest ≠
      ((({ retention } : RainStore).afterAll (earlier ++ [last])).station name).newest)
    (noted : ((({ retention } : RainStore).afterAll (earlier ++ [last])).station name).newest =
      some newest)
    (moved : newest.shiftNanos? (-retention) = some cutoff) :
    ((({ retention } : RainStore).afterAll (earlier ++ [last])).station name).Expired
      (storedRows name (earlier ++ [last])) cutoff newest := by
  by_cases stored : last.reading.stationName = name ∧ (bucketEnd? last.row.timestamp).isSome
  · obtain ⟨bucket, found⟩ := Option.isSome_iff_exists.mp stored.2
    have held : ((({ retention } : RainStore).afterAll earlier).station name).rows <:+
        storedRows name earlier := rows_suffix_storedRows
    have increasing := (afterAll_sound { retention } (fun _ => Table.increasing_empty) earlier).2 name
    rw [station_of_find? (find?_afterAll_stored stored.1 found)] at advanced noted ⊢
    rw [StationRain.expire_of_newest_ne advanced noted moved, storedRows_append, if_pos stored]
    exact StationRain.expired_prune (List.suffix_append_self_iff.mpr held)
      (Table.increasing_insert increasing _ _) newest
  · rw [station_afterAll_skipped stored] at advanced
    exact absurd rfl advanced

/-- While what is too old is older than a row, all that arrived from that row on is held. -/
theorem suffix_rows_of_young {before later : List Recording} {front : Recording}
    (named : front.reading.stationName = name) (bucketed : (bucketEnd? front.row.timestamp).isSome)
    (young : ∀ recording ∈ arrivals name (front :: later), ∀ cutoff,
      recording.seen.shiftNanos? (-retention) = some cutoff → cutoff ≤ front.row.timestamp) :
    front.row :: storedRows name later <:+
      ((({ retention } : RainStore).afterAll (before ++ front :: later)).station name).rows := by
  induction later using List.reverseRecOn with
  | nil =>
    obtain ⟨bucket, found⟩ := Option.isSome_iff_exists.mp bucketed
    rw [station_of_find? (find?_afterAll_stored named found)]
    exact StationRain.suffix_expire (List.suffix_append _ _)
      (young front (by simp [arrivals, named]))
  | append_singleton later last ih =>
    have arrived := arrivals_append name (front :: later) last
    have held := ih fun recording member => young recording (by
      rw [← List.cons_append, arrived]
      split
      · exact List.mem_append_left _ member
      · exact member)
    rw [← List.cons_append, ← List.append_assoc, storedRows_append]
    split
    case isTrue stored =>
      obtain ⟨bucket, found⟩ := Option.isSome_iff_exists.mp stored.2
      rw [station_of_find? (find?_afterAll_stored stored.1 found)]
      -- The row comes last, and the expiry that goes with it stops at the front row at the latest.
      apply StationRain.suffix_expire
      · rw [← List.cons_append]
        exact List.suffix_append_self_iff.mpr held
      · exact young last (by rw [← List.cons_append, arrived, if_pos stored.1]; simp)
    case isFalse skipped =>
      rw [station_afterAll_skipped skipped]
      exact held

/-- Whatever was recorded: right after a newer time than any before was noted, a station holds the
latest of its rows from the first one on that is not too old, and no bucket that is too old. From a row
on that is not too old for any of the times seen since, all that arrived is held, however much it may
be: one row from a clock that is ahead keeps all behind it until the newest time has passed it by the
retention. -/
theorem expired_behind_ahead (retention : Int) (earlier : List Recording) (last : Recording)
    (name : String) {newest cutoff : Instant}
    (advanced : ((({ retention } : RainStore).afterAll earlier).station name).newest ≠
      ((({ retention } : RainStore).afterAll (earlier ++ [last])).station name).newest)
    (noted : ((({ retention } : RainStore).afterAll (earlier ++ [last])).station name).newest =
      some newest)
    (moved : newest.shiftNanos? (-retention) = some cutoff) :
    let rain := (({ retention } : RainStore).afterAll (earlier ++ [last])).station name
    rain.Expired (storedRows name (earlier ++ [last])) cutoff newest ∧
    ∀ before front later, earlier ++ [last] = before ++ front :: later →
      front.reading.stationName = name → (bucketEnd? front.row.timestamp).isSome →
      (∀ recording ∈ arrivals name (front :: later), ∀ oldest,
        recording.seen.shiftNanos? (-retention) = some oldest → oldest ≤ front.row.timestamp) →
      front.row :: storedRows name later <:+ rain.rows := by
  intro rain
  refine ⟨expired_of_newest_ne advanced noted moved, ?_⟩
  intro before front later parts named bucketed young
  change _ <:+ ((({ retention } : RainStore).afterAll (earlier ++ [last])).station name).rows
  rw [parts]
  exact suffix_rows_of_young named bucketed young

/-- With a row from a clock that is a year ahead at the front, a row in time is still held after
three days, where all is to expire after two. -/
theorem expired_behind_year_ahead :
    let store (recordings : List Recording) : RainStore :=
      ({ retention := 172800 * nanosPerSecond } : RainStore).afterAll recordings
    let earlier := Recording.yearAhead
    let last := Recording.threeDaysLater
    let newest := Instant.onSecond 1714780800
    let cutoff := Instant.onSecond 1714608000
    let rain := (store (earlier ++ [last])).station "garden"
    ((store earlier).station "garden").newest ≠ rain.newest ∧ rain.newest = some newest ∧
      newest.shiftNanos? (-(172800 * nanosPerSecond)) = some cutoff ∧
      ¬ KeptByRetained cutoff newest rain.rows ∧
      rain.rows = (earlier ++ [last]).map Recording.row := by
  intro store earlier last newest cutoff rain
  have advanced : ((store earlier).station "garden").newest ≠ rain.newest := by decide +kernel
  have noted : rain.newest = some newest := by decide +kernel
  have moved : newest.shiftNanos? (-(172800 * nanosPerSecond)) = some cutoff := by decide
  obtain ⟨expired, stalls⟩ := expired_behind_ahead (172800 * nanosPerSecond) earlier last "garden"
    advanced noted moved
  have notKept : ¬ KeptByRetained cutoff newest rain.rows := expired.stalled_iff.mpr
    ⟨[⟨.onSecond 1746057600, 0.25⟩], ⟨.onSecond 1714521660, 0.5⟩, [⟨.onSecond 1714780800, 0.125⟩],
      by simp, by decide +kernel, by decide +kernel, by decide +kernel, by decide⟩
  have all : storedRows "garden" (earlier ++ [last]) = (earlier ++ [last]).map Recording.row := by
    decide +kernel
  have held : storedRows "garden" (earlier ++ [last]) <:+ rain.rows :=
    stalls [] _ _ rfl rfl (by decide +kernel) (by decide +kernel)
  rw [← all]
  exact ⟨advanced, noted, moved, notKept, expired.latest.sublist.antisymm held.sublist⟩

/-- A row that is too old is held behind one that is ahead, and nothing else. -/
theorem old_row_held_by_ahead :
    ¬ ∀ (retention : Int) (earlier : List Recording) (last : Recording) (name : String)
      (newest cutoff : Instant), 0 ≤ retention →
      ((({ retention } : RainStore).afterAll earlier).station name).newest ≠
        ((({ retention } : RainStore).afterAll (earlier ++ [last])).station name).newest →
      ((({ retention } : RainStore).afterAll (earlier ++ [last])).station name).newest =
        some newest →
      newest.shiftNanos? (-retention) = some cutoff →
      KeptByRetained cutoff newest
        ((({ retention } : RainStore).afterAll (earlier ++ [last])).station name).rows := by
  intro kept
  obtain ⟨row, member, reached, inTime⟩ := kept (172800 * nanosPerSecond) Recording.yearAhead
    Recording.threeDaysLater "garden" (.onSecond 1714780800) (.onSecond 1714608000) (by decide)
    (by decide +kernel) (by decide +kernel) (by decide)
    [⟨.onSecond 1746057600, 0.25⟩] ⟨.onSecond 1714521660, 0.5⟩ [⟨.onSecond 1714780800, 0.125⟩]
    (by decide +kernel) (by decide)
  rw [List.mem_singleton.mp member] at inTime
  exact absurd inTime (by decide)

end RainStore

end WeatherRelay
