import WeatherRelay.Time.Calendar

/-! Instants of universal time within the calendar, to the nanosecond.

A leap second has no second of its own: it is written as one thousand million nanoseconds and more
on the last second of its minute. Instants are ordered by seconds, then by nanoseconds.
-/

set_option autoImplicit false

namespace WeatherRelay

abbrev nanosPerSecond : Nat := 1000000000

structure Instant where
  /-- Seconds since 1970-01-01 00:00:00. -/
  seconds : Int
  nanos : Nat
  first_le : -8334601228800 ≤ seconds
  le_last : seconds ≤ 8210266876799
  nanos_lt : nanos < 2 * nanosPerSecond
  leap_only_at_59 : nanosPerSecond ≤ nanos → seconds % 60 = 59
  deriving DecidableEq

namespace Instant

/-- The instant at these seconds and nanoseconds, where there is one. -/
def ofParts? (seconds : Int) (nanos : Nat) : Option Instant :=
  if inside : -8334601228800 ≤ seconds ∧ seconds ≤ 8210266876799 ∧
      nanos < 2 * nanosPerSecond ∧ (nanosPerSecond ≤ nanos → seconds % 60 = 59) then
    some ⟨seconds, nanos, inside.1, inside.2.1, inside.2.2.1, inside.2.2.2⟩
  else none

def epoch : Instant := ⟨0, 0, by decide, by decide, by decide, by decide⟩

instance : Inhabited Instant := ⟨epoch⟩

/-- Position on the time line: instants are ordered as their ticks are. -/
def tick (instant : Instant) : Int := instant.seconds * (2 * nanosPerSecond : Nat) + instant.nanos

instance : LE Instant := ⟨fun a b => a.tick ≤ b.tick⟩
instance : LT Instant := ⟨fun a b => a.tick < b.tick⟩
instance (a b : Instant) : Decidable (a ≤ b) := inferInstanceAs (Decidable (a.tick ≤ b.tick))
instance (a b : Instant) : Decidable (a < b) := inferInstanceAs (Decidable (a.tick < b.tick))

theorem le_iff {a b : Instant} : a ≤ b ↔ a.tick ≤ b.tick := Iff.rfl
theorem lt_iff {a b : Instant} : a < b ↔ a.tick < b.tick := Iff.rfl

def isLeapSecond (instant : Instant) : Bool := nanosPerSecond ≤ instant.nanos

/-- The instant this many nanoseconds after the start of a second with its nanoseconds. -/
def after? (seconds : Int) (nanos : Nat) (span : Int) : Option Instant :=
  ofParts? (seconds + (nanos + span) / nanosPerSecond) ((nanos + span) % nanosPerSecond).toNat

/-- The instant this many nanoseconds later, or none outside the calendar. Less than a second may
stay within a leap second. Leaving one forwards counts it with the second before it, leaving it
backwards with the second after it. -/
def shiftNanos? (instant : Instant) (span : Int) : Option Instant :=
  if instant.isLeapSecond then
    if span.natAbs < nanosPerSecond && instant.nanos + span < 2 * nanosPerSecond then
      ofParts? instant.seconds (instant.nanos + span).toNat
    else
      let start := if span < 0 then instant.seconds + 1 else instant.seconds
      after? start (instant.nanos - nanosPerSecond) span
  else after? instant.seconds instant.nanos span

def shift? (instant : Instant) (seconds : Int) : Option Instant :=
  instant.shiftNanos? (seconds * nanosPerSecond)

def earlier (a b : Instant) : Instant := if a ≤ b then a else b

def later (a b : Instant) : Instant := if a ≤ b then b else a

def secondOfDay (instant : Instant) : Int := instant.seconds % 86400

/-- Nanoseconds from one instant to another. A leap second counts where it is left behind within
the day, and not over midnight. -/
def nanosSince (later earlier : Instant) : Int :=
  let leap : Int :=
    if earlier.isLeapSecond && earlier.secondOfDay < later.secondOfDay then 1
    else if later.isLeapSecond && later.secondOfDay < earlier.secondOfDay then -1
    else 0
  (later.seconds - earlier.seconds + leap) * nanosPerSecond + (later.nanos - earlier.nanos)

end Instant

end WeatherRelay
