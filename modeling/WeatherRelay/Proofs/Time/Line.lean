import Mathlib.Order.Defs.LinearOrder
import WeatherRelay.Time.Instant

/-! The time line of instants, and moving along it.

Instants other than leap seconds stand on one line of nanoseconds. A move along that line adds to
the position and fails outside the calendar only, and no move leads into a leap second.
-/

set_option autoImplicit false

namespace WeatherRelay.Instant

theorem tick_eq (instant : Instant) : instant.tick = instant.seconds * 2000000000 + instant.nanos :=
  rfl

theorem eq_of_tick {a b : Instant} (same : a.tick = b.tick) : a = b := by
  have left := a.nanos_lt
  have right := b.nanos_lt
  simp only [tick_eq, nanosPerSecond] at same left right
  obtain ⟨seconds, nanos, _, _, _, _⟩ := a
  obtain ⟨otherSeconds, otherNanos, _, _, _, _⟩ := b
  dsimp only at same left right
  have sameSeconds : seconds = otherSeconds := by omega
  have sameNanos : nanos = otherNanos := by omega
  subst sameSeconds sameNanos
  rfl

instance : LinearOrder Instant where
  le_refl _ := Int.le_refl _
  le_trans _ _ _ := Int.le_trans
  lt_iff_le_not_ge _ _ := Int.lt_iff_le_and_not_ge
  le_antisymm _ _ below above := eq_of_tick (Int.le_antisymm below above)
  le_total _ _ := Int.le_total _ _
  toDecidableLE := inferInstance
  toDecidableLT := inferInstance
  toDecidableEq := inferInstance

/-- An instant that is no leap second. -/
def Ordinary (instant : Instant) : Prop := instant.isLeapSecond = false

instance (instant : Instant) : Decidable instant.Ordinary :=
  inferInstanceAs (Decidable (instant.isLeapSecond = false))

theorem ordinary_iff {instant : Instant} : instant.Ordinary ↔ instant.nanos < 1000000000 := by
  simp [Ordinary, isLeapSecond, nanosPerSecond]

/-- A whole second of the calendar; the epoch for any other. -/
def onSecond (seconds : Int) : Instant := (ofParts? seconds 0).getD epoch

/-- Nanoseconds since the epoch, for instants other than leap seconds. -/
def position (instant : Instant) : Int := instant.seconds * 1000000000 + instant.nanos

theorem le_iff_position {a b : Instant} (left : a.Ordinary) (right : b.Ordinary) :
    a ≤ b ↔ a.position ≤ b.position := by
  rw [ordinary_iff] at left right
  rw [le_iff, tick_eq, tick_eq, position, position]
  omega

theorem ofParts?_eq_some_iff {seconds : Int} {nanos : Nat} {instant : Instant} :
    ofParts? seconds nanos = some instant ↔ instant.seconds = seconds ∧ instant.nanos = nanos := by
  unfold ofParts?
  constructor
  · intro found
    split at found
    · cases found
      exact ⟨rfl, rfl⟩
    · cases found
  · rintro ⟨rfl, rfl⟩
    rw [dif_pos ⟨instant.first_le, instant.le_last, instant.nanos_lt, instant.leap_only_at_59⟩]

theorem shiftNanos?_eq_some_iff {a b : Instant} {span : Int} (ordinary : a.Ordinary) :
    a.shiftNanos? span = some b ↔ b.Ordinary ∧ b.position = a.position + span := by
  have leapless : a.isLeapSecond = false := ordinary
  rw [ordinary_iff] at ordinary
  have nonneg := Int.emod_nonneg (a.nanos + span) (by decide : (1000000000 : Int) ≠ 0)
  simp only [shiftNanos?, leapless, Bool.false_eq_true, if_false, after?, ofParts?_eq_some_iff,
    nanosPerSecond, ordinary_iff, position]
  omega

/-- A move back fails exactly where it leads before the calendar, also out of a leap second. -/
theorem shiftNanos?_back_isSome_iff {instant : Instant} {span : Int} (nonneg : 0 ≤ span) :
    (instant.shiftNanos? (-span)).isSome ↔
      -8334601228800 * 1000000000 ≤ instant.position - span := by
  have first := instant.first_le
  have last := instant.le_last
  have below := instant.nanos_lt
  have at59 := instant.leap_only_at_59
  have remainder := Int.emod_nonneg (instant.nanos + -span) (by decide : (1000000000 : Int) ≠ 0)
  have leapRemainder := Int.emod_nonneg ((instant.nanos - 1000000000 : Nat) + -span : Int)
    (by decide : (1000000000 : Int) ≠ 0)
  simp only [shiftNanos?, isLeapSecond, nanosPerSecond, decide_eq_true_eq, after?, ofParts?,
    position, Bool.and_eq_true] at *
  split
  case isTrue leap =>
    split
    case isTrue within =>
      -- The move ends within the leap second or in the second that it is written on.
      rw [dif_pos (by omega)]
      simp only [Option.isSome_some, true_iff]
      omega
    case isFalse beyond =>
      rw [apply_dite Option.isSome]
      simp only [Option.isSome_some, Option.isSome_none]
      split <;> split <;> simp only [Bool.false_eq_true, true_iff, false_iff] <;> omega
  case isFalse =>
    rw [apply_dite Option.isSome]
    simp only [Option.isSome_some, Option.isSome_none]
    split <;> simp only [Bool.false_eq_true, true_iff, false_iff] <;> omega

theorem le_of_shiftNanos?_back {instant oldest : Instant} {span : Int} (nonneg : 0 ≤ span)
    (moved : instant.shiftNanos? (-span) = some oldest) : oldest ≤ instant := by
  have below := instant.nanos_lt
  have remainder := Int.emod_nonneg (instant.nanos + -span) (by decide : (1000000000 : Int) ≠ 0)
  have leapRemainder := Int.emod_nonneg ((instant.nanos - 1000000000 : Nat) + -span : Int)
    (by decide : (1000000000 : Int) ≠ 0)
  simp only [shiftNanos?, isLeapSecond, nanosPerSecond, decide_eq_true_eq, after?,
    Bool.and_eq_true] at moved below remainder leapRemainder
  rw [le_iff, tick_eq, tick_eq]
  split at moved
  case isTrue leap =>
    split at moved
    case isTrue within =>
      obtain ⟨seconds, nanos⟩ := ofParts?_eq_some_iff.mp moved
      omega
    case isFalse beyond =>
      obtain ⟨seconds, nanos⟩ := ofParts?_eq_some_iff.mp moved
      split at seconds <;> omega
  case isFalse =>
    obtain ⟨seconds, nanos⟩ := ofParts?_eq_some_iff.mp moved
    omega

theorem le_of_shift?_back {instant earlier : Instant} {seconds : Int} (nonneg : 0 ≤ seconds)
    (moved : instant.shift? (-seconds) = some earlier) : earlier ≤ instant := by
  rw [shift?, Int.neg_mul] at moved
  exact le_of_shiftNanos?_back (Int.mul_nonneg nonneg (by decide)) moved

theorem shift?_eq_some_iff {a b : Instant} {seconds : Int} (ordinary : a.Ordinary) :
    a.shift? seconds = some b ↔ b.seconds = a.seconds + seconds ∧ b.nanos = a.nanos := by
  unfold shift?
  rw [shiftNanos?_eq_some_iff ordinary]
  rw [ordinary_iff] at ordinary
  simp only [ordinary_iff, position, nanosPerSecond]
  omega

theorem shiftNanos?_le_of_le {a b c d : Instant} {span : Int} (left : a.Ordinary)
    (right : b.Ordinary) (from_a : a.shiftNanos? span = some c)
    (from_b : b.shiftNanos? span = some d) (order : a ≤ b) : c ≤ d := by
  obtain ⟨ordinary_c, position_c⟩ := (shiftNanos?_eq_some_iff left).mp from_a
  obtain ⟨ordinary_d, position_d⟩ := (shiftNanos?_eq_some_iff right).mp from_b
  rw [le_iff_position left right] at order
  rw [le_iff_position ordinary_c ordinary_d]
  omega

/-- A move adds to the position, up to the leap second that it may leave. -/
theorem shiftNanos?_near {a b : Instant} {span : Int} (moved : a.shiftNanos? span = some b) :
    b.position ≤ a.position + span ∧ a.position + span ≤ b.position + 1000000000 := by
  have below := a.nanos_lt
  have remainder := Int.emod_nonneg (a.nanos + span) (by decide : (1000000000 : Int) ≠ 0)
  have leapRemainder := Int.emod_nonneg ((a.nanos - 1000000000 : Nat) + span : Int)
    (by decide : (1000000000 : Int) ≠ 0)
  simp only [shiftNanos?, isLeapSecond, nanosPerSecond, decide_eq_true_eq, after?,
    Bool.and_eq_true] at moved below remainder leapRemainder
  rw [position, position]
  split at moved
  case isTrue leap =>
    split at moved
    case isTrue within =>
      obtain ⟨seconds, nanos⟩ := ofParts?_eq_some_iff.mp moved
      omega
    case isFalse beyond =>
      obtain ⟨seconds, nanos⟩ := ofParts?_eq_some_iff.mp moved
      split at seconds <;> omega
  case isFalse =>
    obtain ⟨seconds, nanos⟩ := ofParts?_eq_some_iff.mp moved
    omega

theorem position_near {a b : Instant} (order : a ≤ b) : a.position ≤ b.position + 1000000000 := by
  have left := a.nanos_lt
  rw [le_iff, tick_eq, tick_eq] at order
  simp only [position, nanosPerSecond] at *
  omega

theorem earlier_le_left (a b : Instant) : earlier a b ≤ a := by
  unfold earlier
  split
  · exact le_rfl
  · next above => exact le_of_not_ge above

theorem ordinary_earlier {a b : Instant} (left : a.Ordinary) (right : b.Ordinary) :
    (earlier a b).Ordinary := by
  unfold earlier
  split
  · exact left
  · exact right

theorem later_le_iff {a b c : Instant} : later a b ≤ c ↔ a ≤ c ∧ b ≤ c := by
  unfold later
  split
  · next order => exact ⟨fun below => ⟨le_trans order below, below⟩, And.right⟩
  · next order =>
    exact ⟨fun below => ⟨below, le_trans (le_of_not_ge order) below⟩, And.left⟩

end WeatherRelay.Instant
