import Mathlib.Order.Bounds.Basic
import WeatherRelay.Proofs.Time.Line
import WeatherRelay.Time.Zone

/-! The start of a local day.

Clocks that are set back may show a midnight twice, and a date in two stretches with the end of the
date before in between. The first instant of a date is the first one at which clocks show its
midnight, unless they were set forward over it.
-/

set_option autoImplicit false

namespace WeatherRelay.Zone

/-- The offset at a second of universal time, within the calendar or not. -/
def offsetOn (zone : Zone) (second : Int) : Int :=
  if second < zone.change then zone.before else zone.after

/-- Local clocks never show a second: they are set forward over it. -/
def Skips (zone : Zone) (localSecond : Int) : Prop :=
  ∀ second : Int, second + zone.offsetOn second ≠ localSecond

/-- All seconds at which local clocks show a date are within the calendar. -/
def DayWithinCalendar (zone : Zone) (day : Int) : Prop :=
  ∀ second : Int, (second + zone.offsetOn second) / 86400 = day →
    -8334601228800 ≤ second ∧ second ≤ 8210266876799

variable {zone : Zone}

theorem skips_iff {localSecond : Int} : zone.Skips localSecond ↔
    zone.change ≤ localSecond - zone.before ∧ localSecond - zone.after < zone.change := by
  unfold Skips offsetOn
  constructor
  · intro never
    have early := never (localSecond - zone.before)
    have late := never (localSecond - zone.after)
    split at early <;> split at late <;> omega
  · intro between second
    split <;> omega

instance (localSecond : Int) : Decidable (zone.Skips localSecond) :=
  decidable_of_iff _ skips_iff.symm

/-- Before the first second at which clocks show a time they show earlier ones only, also where they
are set back. -/
theorem exists_firstSecond {localSecond : Int} (shown : ¬ zone.Skips localSecond) :
    ∃ second : Int, second + zone.offsetOn second = localSecond ∧
      ∀ other : Int, localSecond ≤ other + zone.offsetOn other → second ≤ other := by
  rw [skips_iff] at shown
  unfold offsetOn
  by_cases early : localSecond - zone.before < zone.change
  case pos =>
    refine ⟨localSecond - zone.before, by rw [if_pos early]; omega, ?_⟩
    intro other later
    split at later <;> omega
  case neg =>
    -- Clocks come to this time behind the change only.
    have late : ¬ localSecond - zone.after < zone.change := by omega
    refine ⟨localSecond - zone.after, by rw [if_neg late]; omega, ?_⟩
    intro other later
    split at later <;> omega

theorem head?_instantsAt {localSecond second : Int} {instant : Instant}
    (shows : second + zone.offsetOn second = localSecond)
    (earliest : ∀ other : Int, localSecond ≤ other + zone.offsetOn other → second ≤ other)
    (found : Instant.ofParts? second 0 = some instant) :
    (zone.instantsAt localSecond).head? = some instant := by
  unfold instantsAt
  by_cases early : second < zone.change
  case pos =>
    rw [offsetOn, if_pos early] at shows
    obtain rfl : second = localSecond - zone.before := by omega
    simp [early, found]
  case neg =>
    have behind : ¬ localSecond - zone.before < zone.change := by
      intro before
      have order := earliest (localSecond - zone.before) (by rw [offsetOn, if_pos before]; omega)
      omega
    rw [offsetOn, if_neg early] at shows
    obtain rfl : second = localSecond - zone.after := by omega
    have late : zone.change ≤ localSecond - zone.after := by omega
    simp [behind, late, found]

/-- Where clocks do not skip its midnight, a local day starts at the earliest of all its instants,
whichever of them is asked about. -/
theorem localMidnight_isLeast (zone : Zone) (now : Instant)
    (shown : ¬ zone.Skips (zone.localDay now * 86400))
    (within : zone.DayWithinCalendar (zone.localDay now)) :
    IsLeast {instant | zone.localDay instant = zone.localDay now} (zone.localMidnight now) ∧
      zone.localMidnight now ≤ now ∧
      ∀ other, zone.localDay other = zone.localDay now →
        zone.localMidnight other = zone.localMidnight now := by
  obtain ⟨second, shows, earliest⟩ := exists_firstSecond shown
  obtain ⟨low, high⟩ := within second (by rw [shows, Int.mul_ediv_cancel _ (by decide)])
  let midnight : Instant := ⟨second, 0, low, high, by decide, fun leap => absurd leap (by decide)⟩
  have isFirst : (zone.instantsAt (zone.localDay now * 86400)).head? = some midnight :=
    head?_instantsAt shows earliest (Instant.ofParts?_eq_some_iff.mpr ⟨rfl, rfl⟩)
  have starts (other : Instant) (sameDay : zone.localDay other = zone.localDay now) :
      zone.localMidnight other = midnight := by
    unfold localMidnight
    rw [sameDay, isFirst, Option.getD_some]
  have behind (other : Instant) (sameDay : zone.localDay other = zone.localDay now) :
      midnight ≤ other := by
    have order : second ≤ other.seconds := by
      apply earliest
      rw [← sameDay]
      exact Int.ediv_mul_le _ (by decide)
    rw [Instant.le_iff, Instant.tick_eq, Instant.tick_eq]
    dsimp only [midnight]
    omega
  rw [starts now rfl]
  refine ⟨⟨?_, fun other sameDay => behind other sameDay⟩, behind now rfl, starts⟩
  change (second + zone.offsetOn second) / 86400 = zone.localDay now
  rw [shows, Int.mul_ediv_cancel _ (by decide)]

/-- Clocks are set back by four hours at one in the night. The day that had begun an hour before goes
on three hours later, and starts with that hour. -/
theorem localMidnight_of_interrupted_day :
    let zone : Zone := ⟨7200, 1714518000, -7200⟩
    let now := Instant.onSecond 1714550000
    let between := Instant.onSecond 1714520000
    ¬ zone.Skips (zone.localDay now * 86400) ∧ zone.DayWithinCalendar (zone.localDay now) ∧
      zone.localMidnight now < between ∧ between < now ∧ zone.localDay between < zone.localDay now ∧
      IsLeast {instant | zone.localDay instant = zone.localDay now} (zone.localMidnight now) := by
  intro zone now between
  have shown : ¬ zone.Skips (zone.localDay now * 86400) := by decide
  have day : zone.localDay now = 19844 := by decide
  have within : zone.DayWithinCalendar (zone.localDay now) := by
    intro second same
    rw [day, offsetOn] at same
    dsimp only [zone] at same
    split at same <;> omega
  exact ⟨shown, within, by decide, by decide, by decide,
    (localMidnight_isLeast zone now shown within).1⟩

end WeatherRelay.Zone
