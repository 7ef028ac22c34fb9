import WeatherRelay.Position
import WeatherRelay.Proofs.Binary.Value

/-! Degrees and minutes come in the order of the angles.

What is written of an angle is its whole degrees and the rounded minutes of the rest, where a carry
changes nothing about the sum. So a bound on what is written is a bound on the angle, as long as the
degrees and their carry stay within 32 bits. Beyond them the degrees stick to the greatest number
there is, and one more makes them zero.
-/

set_option autoImplicit false

namespace WeatherRelay

theorem Format.double_magnitude_eq_div {rank : Nat}
    (large : 2 ^ 31 ≤ Format.double.magnitude rank) :
    ∃ units : Nat, Format.double.magnitude rank = units / (2 ^ 21 : Nat) := by
  obtain ⟨significand, binades, rfl, short, normal⟩ := Format.double.exists_stack rank
  rw [Format.double.magnitude_stack _ _ short normal] at large ⊢
  -- A significand of 53 bits reaches as far with a unit of no less than 2 ^ -21 only.
  have coarse : (-22 : Int) < Format.double.leastExponent + binades := by
    apply (zpow_lt_zpow_iff_right₀ (by norm_num : (1 : Rat) < 2)).mp
    have full : (significand : Rat) < 2 ^ 53 := by exact_mod_cast short
    have unit := two_zpow_pos (Format.double.leastExponent + binades)
    have product := mul_lt_mul_of_pos_right full unit
    norm_num at product large ⊢
    linarith
  obtain ⟨k, exponent⟩ := Int.eq_ofNat_of_zero_le
    (show 0 ≤ Format.double.leastExponent + binades + 21 by omega)
  have apart : Format.double.leastExponent + binades = (k : Int) - (21 : Nat) := by omega
  refine ⟨significand * 2 ^ k, ?_⟩
  rw [apart, zpow_sub₀ (by norm_num), zpow_natCast, zpow_natCast]
  push_cast
  ring

namespace Position

open Format (double)

/-- Hundredths of a minute in a part of a degree. -/
def hundredthsOf (rest : Rat) : Nat :=
  ((Binary.round false rest : Binary64) * 60 * 100).roundAway.toUInt32

/-- Hundredths of a minute in all that is written of an angle. -/
def written (angle : Binary64) : Nat :=
  6000 * (degreesAndMinutes angle).1 + (degreesAndMinutes angle).2

section Hundredths

variable {rest more : Rat} (nonneg : 0 ≤ rest)
include nonneg

theorem upTo_part (le : rest ≤ 1) : Binary.UpTo (1 : Nat) (Binary.round false rest : Binary64) :=
  Binary.upTo_round (by decide) nonneg (by simpa using le) (Format.double_holds (by decide))

theorem upTo_minutes (le : rest ≤ 1) :
    Binary.UpTo (60 : Nat) ((Binary.round false rest : Binary64) * 60) :=
  (upTo_part nonneg le).mul_ofNat (by decide : 60 < 2 ^ 53) (by decide)

theorem upTo_hundredths (le : rest ≤ 1) :
    Binary.UpTo (6000 : Nat) ((Binary.round false rest : Binary64) * 60 * 100) :=
  (upTo_minutes nonneg le).mul_ofNat (by decide : 100 < 2 ^ 53) (by decide)

theorem hundredthsOf_le (le : rest ≤ 1) : hundredthsOf rest ≤ 6000 :=
  Binary.toUInt32_le ((upTo_hundredths nonneg le).roundAway (by decide))

theorem hundredthsOf_mono (le : rest ≤ more) (upper : more ≤ 1) :
    hundredthsOf rest ≤ hundredthsOf more := by
  have nonneg' := nonneg.trans le
  have parts := Binary.ascending_round (by decide) nonneg le
    (by simpa using upper : more ≤ (1 : Nat)) (Format.double_holds (by decide))
  have minutes := parts.mul_ofNat (upTo_part nonneg' upper) (n := 60) (by decide) (by decide)
  have hundredths := minutes.mul_ofNat (upTo_minutes nonneg' upper) (n := 100) (by decide)
    (by decide)
  exact (hundredths.roundAway (upTo_hundredths nonneg' upper) (by decide)).toUInt32_le

end Hundredths

theorem degreesAndMinutes_finite (negative : Bool) (rank : Fin double.infinityRank) :
    degreesAndMinutes (.finite negative rank) =
      let degrees := min (double.magnitude rank).floor.toNat (2 ^ 32 - 1)
      let hundredths := hundredthsOf (Int.fract (double.magnitude rank))
      if 6000 ≤ hundredths then ((degrees + 1) % 2 ^ 32, hundredths - 6000)
      else (degrees, hundredths) := by
  have lower : 0 ≤ (double.magnitude rank).floor :=
    Int.floor_nonneg.mpr (double.magnitude_nonneg rank)
  -- The whole degrees are a number of the format, so that only the rest of them is rounded.
  obtain ⟨whole, floored, magnitude⟩ := Binary.round_of_holds (by decide)
    (by exact_mod_cast lower) (double.holds_floor (by decide) rank)
  have degrees : (Binary.finite false whole : Binary64).toUInt32 =
      min (double.magnitude rank).floor.toNat (2 ^ 32 - 1) := by
    have part : Binary.integerPart (double.magnitude whole) = (double.magnitude rank).floor := by
      rw [magnitude, Binary.integerPart, if_neg (by exact_mod_cast lower.not_gt), Rat.floor_intCast]
    have last : twoTo 32 - 1 = 2 ^ 32 - 1 := rfl
    simp only [Binary.toUInt32, Binary.truncate, Bool.false_eq_true, if_false, part, last]
    omega
  have absolute : (Binary.finite negative rank : Binary64).abs = .finite false rank := rfl
  unfold degreesAndMinutes
  dsimp only
  rw [absolute, Binary.floor_finite, floored, degrees, Binary.sub_finite, magnitude]
  rfl

theorem minutes_lt (angle : Binary64) : (degreesAndMinutes angle).2 < 6000 := by
  cases angle with
  | nan => decide
  | infinity negative => cases negative <;> decide
  | finite negative rank =>
    have hundredths := hundredthsOf_le (Int.fract_nonneg (double.magnitude rank))
      (Int.fract_lt_one _).le
    rw [degreesAndMinutes_finite]
    dsimp only
    split <;> dsimp only <;> omega

theorem floor_toNat_lt {x : Rat} (small : x < 2 ^ 32 - 1) : x.floor.toNat < 2 ^ 32 - 1 := by
  have : x.floor < 2 ^ 32 - 1 := Rat.floor_lt_iff.mpr (by exact_mod_cast small)
  omega

/-- A carry is worth just the minutes that it takes. -/
theorem written_finite (negative : Bool) (rank : Fin double.infinityRank)
    (small : double.magnitude rank < 2 ^ 32 - 1) :
    written (.finite negative rank) = 6000 * (double.magnitude rank).floor.toNat +
      hundredthsOf (Int.fract (double.magnitude rank)) := by
  have degrees := floor_toNat_lt small
  rw [written, degreesAndMinutes_finite, min_eq_left degrees.le]
  dsimp only
  split
  case isTrue carried =>
    rw [Nat.mod_eq_of_lt (by omega)]
    dsimp only
    omega
  case isFalse => rfl

theorem written_mono {negative negative' : Bool} {rank rank' : Fin double.infinityRank}
    (le : rank ≤ rank') (small : double.magnitude rank' < 2 ^ 32 - 1) :
    written (.finite negative rank) ≤ written (.finite negative' rank') := by
  have ordered : double.magnitude rank ≤ double.magnitude rank' :=
    double.magnitude_strictMono.monotone le
  have nonneg := Int.fract_nonneg (double.magnitude rank)
  have most := (Int.fract_lt_one (double.magnitude rank')).le
  rw [written_finite _ _ (lt_of_le_of_lt ordered small), written_finite _ _ small]
  rcases (Rat.floor_monotone ordered).eq_or_lt with together | apart
  · have parts : Int.fract (double.magnitude rank) ≤ Int.fract (double.magnitude rank') := by
      change double.magnitude rank - (double.magnitude rank).floor ≤ _
      rw [together]
      exact sub_le_sub_right ordered _
    have hundredths := hundredthsOf_mono nonneg parts most
    omega
  · -- A whole degree is no less than any part of one.
    have rest := hundredthsOf_le nonneg (Int.fract_lt_one _).le
    have lower : 0 ≤ (double.magnitude rank).floor :=
      Int.floor_nonneg.mpr (double.magnitude_nonneg rank)
    omega

/-- A carry that finds no room in 32 bits. -/
def Wraps (angle : Binary64) : Prop :=
  ∃ v, angle.toRat? = some v ∧ 2 ^ 32 - 1 ≤ |v| ∧ 1 - 1 / 12000 ≤ Int.fract |v|

/-- Multiples of so small a part are carried where they should be. -/
theorem le_hundredthsOf_iff {units : Nat} (part : units < 2 ^ 21) :
    6000 ≤ hundredthsOf (units / (2 ^ 21 : Nat)) ↔
      (1 - 1 / 12000 : Rat) ≤ units / (2 ^ 21 : Nat) := by
  have unit : (0 : Rat) < (2 ^ 21 : Nat) := by norm_num
  have first : hundredthsOf ((2096978 : Nat) / (2 ^ 21 : Nat)) = 6000 := by decide +kernel
  have last : hundredthsOf ((2096977 : Nat) / (2 ^ 21 : Nat)) = 5999 := by decide +kernel
  have mono : ∀ {few many : Nat}, few ≤ many → many ≤ 2 ^ 21 →
      hundredthsOf ((few : Rat) / (2 ^ 21 : Nat)) ≤ hundredthsOf (many / (2 ^ 21 : Nat)) :=
    fun le upper => hundredthsOf_mono (div_nonneg (Nat.cast_nonneg _) unit.le)
      (div_le_div_of_nonneg_right (by exact_mod_cast le) unit.le)
      ((div_le_one unit).mpr (by exact_mod_cast upper))
  rw [le_div_iff₀ unit]
  rcases Nat.lt_or_ge units 2096978 with few | many
  · have below := mono (Nat.le_of_lt_succ few) (by decide)
    have bound : (units : Rat) ≤ 2096977 := by exact_mod_cast Nat.le_of_lt_succ few
    refine iff_of_false (by omega) (not_le.mpr ?_)
    norm_num
    linarith
  · have above := mono many part.le
    have bound : (2096978 : Rat) ≤ units := by exact_mod_cast many
    refine iff_of_true (by omega) ?_
    norm_num
    linarith

/-- Angles of more degrees than there is room for are written as the greatest number of degrees, or
as zero. -/
theorem degreesAndMinutes_of_large (negative : Bool) {rank : Fin double.infinityRank}
    (large : 2 ^ 32 - 1 ≤ double.magnitude rank) :
    (1 - 1 / 12000 ≤ Int.fract (double.magnitude rank) →
      degreesAndMinutes (.finite negative rank) = (0, 0)) ∧
    (¬ 1 - 1 / 12000 ≤ Int.fract (double.magnitude rank) →
      (degreesAndMinutes (.finite negative rank)).1 = 2 ^ 32 - 1) := by
  have degrees : 2 ^ 32 - 1 ≤ (double.magnitude rank).floor :=
    Rat.le_floor_iff.mpr (by exact_mod_cast large)
  obtain ⟨units, magnitude⟩ := Format.double_magnitude_eq_div
    (le_trans (by norm_num : (2 : Rat) ^ 31 ≤ 2 ^ 32 - 1) large)
  have part : Int.fract (double.magnitude rank) =
      (units % 2 ^ 21 : Nat) / (2 ^ 21 : Nat) := by
    rw [magnitude]
    exact Int.fract_div_natCast_eq_div_natCast_mod
  have carried := le_hundredthsOf_iff (Nat.mod_lt units (by decide : 0 < 2 ^ 21))
  have most := hundredthsOf_le (Int.fract_nonneg (double.magnitude rank)) (Int.fract_lt_one _).le
  have full : min (double.magnitude rank).floor.toNat (2 ^ 32 - 1) = 2 ^ 32 - 1 :=
    min_eq_right (by omega)
  rw [← part] at carried
  rw [degreesAndMinutes_finite, full]
  dsimp only
  constructor
  · intro near
    have all := carried.mpr near
    rw [if_pos all, Nat.sub_eq_zero_of_le most]
    rfl
  · intro far
    rw [if_neg (mt carried.mp far)]

/-- What is written is up to a limit for all angles up to a bound, and for no other but those that
wrap around. The limit is passed from one number to the next, and the bound lies between these. -/
theorem written_le_iff {limit : Nat} {bound : Rat} (rank : Nat)
    (finite : rank + 1 < double.infinityRank)
    (above : double.magnitude rank < bound) (below : bound ≤ double.magnitude (rank + 1))
    (small : double.magnitude (rank + 1) < 2 ^ 32 - 1)
    (last : written (.finite false ⟨rank, Nat.lt_of_succ_lt finite⟩) ≤ limit)
    (next : limit < written (.finite false ⟨rank + 1, finite⟩)) (angle : Binary64) :
    written angle ≤ limit ↔ angle.Within (-bound) bound ∨ Wraps angle := by
  have limited : limit < 6000 * (2 ^ 32 - 1) := by
    have degrees := floor_toNat_lt small
    have rest := hundredthsOf_le (Int.fract_nonneg (double.magnitude (rank + 1)))
      (Int.fract_lt_one _).le
    have total := written_finite false ⟨rank + 1, finite⟩ small
    dsimp only at total
    omega
  cases angle with
  | nan => exact iff_of_true (Nat.zero_le limit) (.inl (.inl rfl))
  | infinity negative =>
    have degrees : written (.infinity negative) = 6000 * (2 ^ 32 - 1) := by
      cases negative <;> decide +kernel
    refine iff_of_false (by omega) ?_
    rintro (within | ⟨_, value, -⟩)
    · exact Binary.not_within_infinity negative within
    · contradiction
  | finite negative other =>
    have wraps : Wraps (.finite negative other) ↔ 2 ^ 32 - 1 ≤ double.magnitude other ∧
        1 - 1 / 12000 ≤ Int.fract (double.magnitude other) := by
      simp only [Wraps, Binary.toRat?, Option.some.injEq, exists_eq_left', Binary.abs_signed]
    have within : (Binary.finite negative other : Binary64).Within (-bound) bound ↔
        double.magnitude other < bound := by
      rw [Binary.within_iff rfl, ← abs_lt, Binary.abs_signed]
    rw [wraps, within]
    rcases lt_or_ge (double.magnitude other) (2 ^ 32 - 1) with fits | large
    · -- What is written keeps the order of the angles here, so the two neighbours decide.
      rw [or_iff_left fun wrapped => fits.not_ge wrapped.1]
      constructor
      · intro limited
        by_contra reached
        have beyond : rank + 1 ≤ other.val :=
          double.magnitude_strictMono.lt_iff_lt.mp (lt_of_lt_of_le above (not_lt.mp reached))
        have more : written (.finite false ⟨rank + 1, finite⟩) ≤ written (.finite negative other) :=
          written_mono beyond fits
        omega
      · intro less
        have order : other.val ≤ rank :=
          Nat.lt_succ_iff.mp (double.magnitude_strictMono.lt_iff_lt.mp (lt_of_lt_of_le less below))
        have fewer : written (.finite negative other) ≤
            written (.finite false ⟨rank, Nat.lt_of_succ_lt finite⟩) :=
          written_mono order (lt_trans (double.magnitude_strictMono (Nat.lt_succ_self rank)) small)
        omega
    · -- The degrees are as many as there can be, or a carry has made them zero.
      rw [or_iff_right (by linarith : ¬ double.magnitude other < bound), and_iff_right large]
      obtain ⟨carried, kept⟩ := degreesAndMinutes_of_large negative large
      constructor
      · intro limited
        by_contra far
        have degrees := kept far
        rw [written, degrees] at limited
        omega
      · intro near
        rw [written, carried near]
        exact Nat.zero_le limit

end Position

end WeatherRelay
