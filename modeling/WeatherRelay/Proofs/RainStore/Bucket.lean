import WeatherRelay.Proofs.Time.Line
import WeatherRelay.RainStore

/-! Buckets as stretches of time: five minutes up to a whole multiple of five minutes, their end
included and their start left out.
-/

set_option autoImplicit false

namespace WeatherRelay

/-- A whole multiple of five minutes, where a bucket ends. -/
def Instant.EndsBucket (ending : Instant) : Prop :=
  ending.seconds % bucketSeconds = 0 ∧ ending.nanos = 0

instance (ending : Instant) : Decidable ending.EndsBucket :=
  inferInstanceAs (Decidable (_ ∧ _))

/-- Within the five minutes up to `ending`, by seconds and then by nanoseconds. -/
def InBucket (ending timestamp : Instant) : Prop :=
  ending.tick - bucketSeconds * (2 * nanosPerSecond : Nat) < timestamp.tick ∧ timestamp ≤ ending

instance (ending timestamp : Instant) : Decidable (InBucket ending timestamp) :=
  inferInstanceAs (Decidable (_ ∧ _))

theorem bucketEnd?_eq_some_iff {timestamp ending : Instant} :
    bucketEnd? timestamp = some ending ↔ ending.EndsBucket ∧ InBucket ending timestamp := by
  have bound := timestamp.nanos_lt
  simp only [bucketEnd?, Instant.ofParts?_eq_some_iff, Instant.EndsBucket, InBucket,
    Instant.le_iff, Instant.tick_eq, bucketSeconds, nanosPerSecond, Bool.and_eq_true,
    decide_eq_true_eq] at bound ⊢
  split <;> omega

/-- The last whole five minutes of the calendar. -/
def lastBucketEnd : Instant := .onSecond 8210266876500

/-- Behind the last whole five minutes of the calendar there is no bucket. -/
theorem bucketEnd?_isSome_iff {timestamp : Instant} :
    (bucketEnd? timestamp).isSome ↔ timestamp ≤ lastBucketEnd := by
  have first := timestamp.first_le
  have bound := timestamp.nanos_lt
  have place : lastBucketEnd.tick = 8210266876500 * 2000000000 := by decide
  simp only [bucketEnd?, Instant.ofParts?, Instant.le_iff, place, Instant.tick_eq, bucketSeconds,
    nanosPerSecond, Bool.and_eq_true, decide_eq_true_eq] at bound ⊢
  rw [apply_dite Option.isSome]
  split <;> split <;> simp <;> omega

theorem Instant.EndsBucket.ordinary {ending : Instant} (ends : ending.EndsBucket) :
    ending.Ordinary := by
  rw [Instant.ordinary_iff, ends.2]
  decide

/-- Two buckets with a time stamp in common are one. -/
theorem InBucket.unique {timestamp first second : Instant} (firstEnds : first.EndsBucket)
    (secondEnds : second.EndsBucket) (inFirst : InBucket first timestamp)
    (inSecond : InBucket second timestamp) : first = second := by
  have left := bucketEnd?_eq_some_iff.mpr ⟨firstEnds, inFirst⟩
  have right := bucketEnd?_eq_some_iff.mpr ⟨secondEnds, inSecond⟩
  exact Option.some.inj (left.symm.trans right)

theorem Instant.EndsBucket.apart {first second : Instant} (firstEnds : first.EndsBucket)
    (secondEnds : second.EndsBucket) (before : first < second) :
    first.tick ≤ second.tick - bucketSeconds * (2 * nanosPerSecond : Nat) := by
  simp only [Instant.EndsBucket, Instant.lt_iff, Instant.tick_eq, bucketSeconds,
    nanosPerSecond] at *
  omega

theorem InBucket.after {ending earlier timestamp : Instant} (ends : ending.EndsBucket)
    (earlierEnds : earlier.EndsBucket) (before : earlier < ending)
    (inside : InBucket ending timestamp) : earlier < timestamp :=
  Instant.lt_iff.mpr (Int.lt_of_le_of_lt (earlierEnds.apart ends before) inside.1)

end WeatherRelay
