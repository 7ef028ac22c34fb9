import Mathlib.Data.Prod.Lex
import WeatherRelay.Proofs.RainStore.Bucket

/-! Buckets tile time.

The whole multiples of five minutes go on beyond the calendar, and every time stamp stands in just
one of the stretches between them. The end of its bucket is that multiple, unless there is no such
instant; time stamps are never before the calendar, so that this is behind its end.
-/

set_option autoImplicit false

namespace WeatherRelay

/-- Seconds and then nanoseconds. -/
def Instant.key (instant : Instant) : Int ×ₗ Nat := toLex (instant.seconds, instant.nanos)

/-- A whole multiple of five minutes closes the stretch up to it: a time stamp is within the five
minutes before, with the multiple itself and without the one before it. -/
structure Closes (ending : Int) (timestamp : Instant) : Prop where
  whole : bucketSeconds ∣ ending
  after : toLex (ending - bucketSeconds, 0) < timestamp.key
  upTo : timestamp.key ≤ toLex (ending, 0)

theorem closes_iff {ending : Int} {timestamp : Instant} :
    Closes ending timestamp ↔ ending % bucketSeconds = 0 ∧
      (ending - bucketSeconds < timestamp.seconds ∨
        ending - bucketSeconds = timestamp.seconds ∧ 0 < timestamp.nanos) ∧
      (timestamp.seconds < ending ∨ timestamp.seconds = ending ∧ timestamp.nanos = 0) := by
  have fields : Closes ending timestamp ↔ bucketSeconds ∣ ending ∧
      toLex (ending - bucketSeconds, 0) < timestamp.key ∧
      timestamp.key ≤ toLex (ending, 0) :=
    ⟨fun closes => ⟨closes.whole, closes.after, closes.upTo⟩,
      fun ⟨whole, after, upTo⟩ => ⟨whole, after, upTo⟩⟩
  rw [fields, Instant.key, Prod.Lex.toLex_lt_toLex, Prod.Lex.toLex_le_toLex, Nat.le_zero,
    Int.dvd_iff_emod_eq_zero]

instance (ending : Int) (timestamp : Instant) : Decidable (Closes ending timestamp) :=
  decidable_of_iff' _ closes_iff

/-- The multiples of the calendar close what the buckets hold that end there. -/
theorem closes_seconds_iff {ending timestamp : Instant} (whole : ending.nanos = 0) :
    Closes ending.seconds timestamp ↔ ending.EndsBucket ∧ InBucket ending timestamp := by
  have bound := timestamp.nanos_lt
  simp only [closes_iff, Instant.EndsBucket, InBucket, Instant.le_iff, Instant.tick_eq,
    bucketSeconds, nanosPerSecond] at bound ⊢
  omega

theorem exists_closes (timestamp : Instant) : ∃ ending, Closes ending timestamp := by
  by_cases whole : timestamp.seconds % bucketSeconds = 0 ∧ timestamp.nanos = 0
  · exact ⟨timestamp.seconds,
      closes_iff.mpr ⟨whole.1, .inl (Int.sub_lt_self _ (by decide)), .inr ⟨rfl, whole.2⟩⟩⟩
  · refine ⟨timestamp.seconds / bucketSeconds * bucketSeconds + bucketSeconds, closes_iff.mpr ?_⟩
    simp only [bucketSeconds] at whole ⊢
    omega

theorem Closes.le_of_le {first second : Int} {earlier later : Instant}
    (closesEarlier : Closes first earlier) (closesLater : Closes second later)
    (order : earlier ≤ later) : first ≤ second := by
  have bound := earlier.nanos_lt
  have bound' := later.nanos_lt
  rw [closes_iff] at closesEarlier closesLater
  simp only [Instant.le_iff, Instant.tick_eq, bucketSeconds, nanosPerSecond] at *
  omega

theorem Closes.unique {first second : Int} {timestamp : Instant} (closes : Closes first timestamp)
    (closesToo : Closes second timestamp) : first = second :=
  le_antisymm (closes.le_of_le closesToo le_rfl) (closesToo.le_of_le closes le_rfl)

theorem bucketEnd?_eq_some_iff_closes {timestamp ending : Instant} :
    bucketEnd? timestamp = some ending ↔ Closes ending.seconds timestamp ∧ ending.nanos = 0 := by
  rw [bucketEnd?_eq_some_iff]
  constructor
  · rintro ⟨ends, inside⟩
    exact ⟨(closes_seconds_iff ends.2).mpr ⟨ends, inside⟩, ends.2⟩
  · rintro ⟨closes, whole⟩
    exact (closes_seconds_iff whole).mp closes

/-- There is no bucket only where the multiple is behind the calendar. -/
theorem Closes.behind_calendar {ending : Int} {timestamp : Instant}
    (closes : Closes ending timestamp) (none : bucketEnd? timestamp = none) (instant : Instant) :
    instant.seconds < ending := by
  have first := timestamp.first_le
  have last := instant.le_last
  have within := closes_iff.mp closes
  by_contra inside
  have found : (Instant.ofParts? ending 0).isSome := by
    rw [Instant.ofParts?, dif_pos (by simp only [nanosPerSecond]; omega)]
    rfl
  obtain ⟨instant', found⟩ := Option.isSome_iff_exists.mp found
  obtain ⟨rfl, whole⟩ := Instant.ofParts?_eq_some_iff.mp found
  rw [bucketEnd?_eq_some_iff_closes.mpr ⟨closes, whole⟩] at none
  cases none

/-- Every time stamp is closed by just one multiple of five minutes, which is the end of its bucket or
else behind the calendar. Where a later time stamp has a bucket, an earlier one has none that ends
after it. -/
theorem buckets_tile_time :
    (∀ timestamp, ∃! ending, Closes ending timestamp) ∧
    (∀ timestamp ending, Closes ending timestamp →
      (∃ found, bucketEnd? timestamp = some found ∧ found.seconds = ending ∧ found.nanos = 0) ∨
      bucketEnd? timestamp = none ∧ ∀ instant : Instant, instant.seconds < ending) ∧
    ∀ earlier later last, earlier ≤ later → bucketEnd? later = some last →
      ∃ first, bucketEnd? earlier = some first ∧ first ≤ last := by
  refine ⟨?_, ?_, ?_⟩
  · intro timestamp
    obtain ⟨ending, closes⟩ := exists_closes timestamp
    exact ⟨ending, closes, fun other closesToo => closesToo.unique closes⟩
  · intro timestamp ending closes
    cases found : bucketEnd? timestamp with
    | none => exact .inr ⟨rfl, closes.behind_calendar found⟩
    | some bucket =>
      obtain ⟨closesToo, whole⟩ := bucketEnd?_eq_some_iff_closes.mp found
      exact .inl ⟨bucket, rfl, closesToo.unique closes, whole⟩
  · intro earlier later last order found
    obtain ⟨first, bucket⟩ := Option.isSome_iff_exists.mp (bucketEnd?_isSome_iff.mpr
      (le_trans order (bucketEnd?_isSome_iff.mp (Option.isSome_of_eq_some found))))
    obtain ⟨closesEarlier, whole⟩ := bucketEnd?_eq_some_iff_closes.mp bucket
    obtain ⟨closesLater, whole'⟩ := bucketEnd?_eq_some_iff_closes.mp found
    refine ⟨first, bucket, ?_⟩
    have seconds := closesEarlier.le_of_le closesLater order
    rw [Instant.le_iff, Instant.tick_eq, Instant.tick_eq, whole, whole']
    omega

/-- Half a second into a leap second, the last nanosecond before the epoch, and five minutes before
the end of the calendar. -/
theorem buckets_tile_edges :
    let leap : Instant := ⟨1483228799, 1500000000, by decide, by decide, by decide, by decide⟩
    let beforeEpoch : Instant := ⟨-1, 999999999, by decide, by decide, by decide, by decide⟩
    let lastMinutes : Instant := ⟨8210266876500, 1, by decide, by decide, by decide, by decide⟩
    Closes 1483228800 leap ∧ (bucketEnd? leap).map (·.seconds) = some 1483228800 ∧
    Closes 0 beforeEpoch ∧ bucketEnd? beforeEpoch = some .epoch ∧
    Closes 8210266876800 lastMinutes ∧ bucketEnd? lastMinutes = none ∧
    beforeEpoch ≤ leap ∧ ∃ first last, bucketEnd? beforeEpoch = some first ∧
      bucketEnd? leap = some last ∧ first ≤ last := by
  intro leap beforeEpoch lastMinutes
  obtain ⟨-, ends, keepsOrder⟩ := buckets_tile_time
  have closesLeap : Closes 1483228800 leap := by decide
  have closesLast : Closes 8210266876800 lastMinutes := by decide
  have noBucket : bucketEnd? lastMinutes = none := by decide
  have order : beforeEpoch ≤ leap := by decide
  rcases ends leap _ closesLeap with ⟨last, found, seconds, -⟩ | ⟨none, -⟩
  · obtain ⟨first, before, le⟩ := keepsOrder beforeEpoch leap last order found
    have label : (bucketEnd? leap).map (·.seconds) = some 1483228800 := by
      rw [found, Option.map_some, seconds]
    exact ⟨closesLeap, label, by decide, by decide, closesLast, noBucket, order, first, last, before,
      found, le⟩
  · exact absurd none (by decide)

end WeatherRelay
