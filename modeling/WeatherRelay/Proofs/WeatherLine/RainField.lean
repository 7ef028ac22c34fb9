import WeatherRelay.Proofs.Binary.Value
import WeatherRelay.Proofs.WeatherLine.Decoding

/-! The day's rain as a report gives it, in hundredths of an inch.

A hundred times a single number is exact in double precision, and what is behind the point is cut
off. So a report is never above the rain and less than a hundredth below it. But a whole number of
hundredths is mostly no single number, and wherever the nearest one lies below, a whole hundredth is
lost.
-/

set_option autoImplicit false

namespace WeatherRelay.WeatherLine

/-- What stands between the marks of rain and humidity. -/
def rainField (block : List Char) : List Char :=
  ((block.dropWhile (· != 'P')).drop 1).takeWhile (· != 'h')

/-- An integer is written in digits and a minus sign. -/
theorem ne_of_mem_paddedInt {width : Nat} {value : Int} {mark : Char} (noSign : mark ≠ '-')
    (noDigit : mark.isDigit = false) :
    ∀ c ∈ (paddedInt width value).toList, (c != mark) = true := by
  have digits : ∀ {size n : Nat}, mark ∉ Decimal.padded size n := by
    intro size n among
    rw [Decimal.isDigit_of_mem_padded among] at noDigit
    cases noDigit
  intro c member
  rw [bne_iff_ne]
  rintro rfl
  rw [toList_paddedInt] at member
  split at member
  · rcases List.mem_cons.mp member with sign | among
    · exact noSign sign
    · exact digits among
  · exact digits member

/-- The field is found by its marks, also where others are wider than they should be. -/
theorem rainField_weatherBlock (reading : Reading) (dayRain : Binary32) :
    rainField (weatherBlock reading dayRain).toList =
      (paddedInt 3 (rainHundredths dayRain)).toList := by
  have block : weatherBlock reading dayRain = (weatherOf reading dayRain).text := rfl
  have numbers (value : Int) : ∀ c ∈ (paddedInt 3 value).toList, (c != 'P') = true :=
    ne_of_mem_paddedInt (by decide) (by decide)
  have slash : ∀ c ∈ "/".toList, (c != 'P') = true := List.all_eq_true.mp (by decide)
  have gust : ∀ c ∈ "g...t".toList, (c != 'P') = true := List.all_eq_true.mp (by decide)
  rw [block, Weather.toList_text, rainField, List.dropWhile_append_of_pos (numbers _),
    List.dropWhile_append_of_pos slash, List.dropWhile_append_of_pos (numbers _),
    List.dropWhile_append_of_pos gust, List.dropWhile_append_of_pos (numbers _)]
  change List.takeWhile _ ((paddedInt 3 (rainHundredths dayRain)).toList ++ ('h' :: _)) = _
  rw [List.takeWhile_append_of_pos (ne_of_mem_paddedInt (by decide) (by decide)),
    List.takeWhile_cons_of_neg (by decide), List.append_nil]

section Reported

variable {inches : Binary32} {r : Rat} (value : inches.toRat? = some r) (nonneg : 0 ≤ r)
  (below : r < 9.995)
include value nonneg below

theorem rainHundredths_eq_floor : rainHundredths inches = (100 * r).floor := by
  have product := Binary.toRat?_convert_mul value (by decide : 100 < 2 ^ 29)
  have small : (r * (100 : Nat)).floor < 1000 :=
    Rat.floor_lt_iff.mpr (by push_cast; linarith)
  have least : 0 ≤ (r * (100 : Nat)).floor := Rat.le_floor_iff.mpr (by push_cast; linarith)
  have whole : Binary.integerPart (r * (100 : Nat)) = (r * (100 : Nat)).floor :=
    if_neg (by push_cast; linarith)
  have scaled : (100 : Rat) * r = r * (100 : Nat) := by
    push_cast
    ring
  rw [scaled]
  unfold rainHundredths
  rw [Binary.toInt64_of_toRat? product, whole]
  omega

theorem fitsWidth_rainHundredths : FitsWidth 3 (rainHundredths inches) := by
  rw [rainHundredths_eq_floor value nonneg below]
  have least : 0 ≤ (100 * r).floor := Rat.le_floor_iff.mpr (by push_cast; linarith)
  have most : (100 * r).floor < 1000 := Rat.floor_lt_iff.mpr (by push_cast; linarith)
  refine ⟨by decide, ?_, ?_⟩ <;> norm_num <;> omega

omit nonneg in
/-- The number nearest to some hundredths of an inch is within a hundred-thousandth of them. -/
theorem near_total {total : Nat} (nearest : inches = Binary.round false ((total : Rat) / 100)) :
    |r - total / 100| ≤ 2 ^ (-20 : Int) / 2 := by
  rw [nearest] at value
  have counted : (0 : Rat) ≤ total / 100 := by positivity
  -- From ten inches on the nearest number would not be below ten either.
  have few : (total : Rat) / 100 < 10 := by
    by_contra many
    have held := Format.single_holds (by decide : 10 < 2 ^ 24)
    rw [← abs_of_nonneg (Nat.cast_nonneg (α := Rat) 10)] at held
    have ten := Binary.le_round_of_le (by decide) value (le_of_not_gt many) held
    linarith
  refine Binary.round_near value ?_ (by decide)
  rw [abs_of_nonneg counted]
  exact lt_trans few (by norm_num [Format.single])

end Reported

/-- In the field of the rain stand three digits. They are the hundredths of an inch without what is
behind the point: never more than the rain, less than one hundredth below it, and nearest to it
exactly if no more than a half was cut off. A total of whole hundredths, as the number nearest to
it, is reported if that number does not lie below it, and otherwise one hundredth less. -/
theorem rainField_reports_floor {inches : Binary32} {r : Rat} (value : inches.toRat? = some r)
    (nonneg : 0 ≤ r) (below : r < 9.995) (reading : Reading) :
    ∃ reported : Int,
      (rainField (weatherBlock reading inches).toList).length = 3 ∧
      integer? (rainField (weatherBlock reading inches).toList) = some reported ∧
      reported ≤ 100 * r ∧ 100 * r < reported + 1 ∧
      (|reported - 100 * r| ≤ 1 / 2 ↔ Int.fract (100 * r) ≤ 1 / 2) ∧
      ∀ total : Nat, inches = Binary.round false ((total : Rat) / 100) →
        reported = if (total : Rat) / 100 ≤ r then (total : Int) else total - 1 := by
  have floor := rainHundredths_eq_floor value nonneg below
  have low : ((100 * r).floor : Rat) ≤ 100 * r := Rat.floor_le _
  have high : 100 * r < (100 * r).floor + 1 := by exact_mod_cast Rat.lt_floor_add_one (100 * r)
  rw [rainField_weatherBlock]
  refine ⟨rainHundredths inches, length_paddedInt (fitsWidth_rainHundredths value nonneg below),
    integer?_paddedInt _, ?_⟩
  rw [floor]
  refine ⟨low, high, ?half, ?gauge⟩
  case half =>
    have rest : Int.fract (100 * r) = 100 * r - (100 * r).floor := rfl
    rw [abs_sub_comm, abs_of_nonneg (by linarith), rest]
  case gauge =>
    intro total nearest
    have near := near_total value below nearest
    norm_num [abs_le] at near
    apply le_antisymm
    · rw [← Int.lt_add_one_iff]
      split
      case isTrue => exact Rat.floor_lt_iff.mpr (by push_cast; linarith)
      case isFalse short => exact Rat.floor_lt_iff.mpr (by push_cast; linarith)
    · split
      case isTrue => exact Rat.le_floor_iff.mpr (by push_cast; linarith)
      case isFalse short => exact Rat.le_floor_iff.mpr (by push_cast; linarith)

/-- The number nearest to 29 hundredths lies below them, and 28 are reported. -/
theorem rainField_reports_28_of_29 :
    ∃ r : Rat, (Binary.round false (29 / 100) : Binary32).toRat? = some r ∧ 0 ≤ r ∧ r < 9.995 ∧
      r < 29 / 100 ∧ ∀ reading, integer? (rainField (weatherBlock reading
        (Binary.round false (29 / 100))).toList) = some 28 := by
  have value : (Binary.round false (29 / 100) : Binary32).toRat? = some (9730785 / 33554432) := by
    decide +kernel
  refine ⟨9730785 / 33554432, value, by norm_num, by norm_num, by norm_num, fun reading => ?_⟩
  obtain ⟨reported, -, field, -, -, -, gauge⟩ := rainField_reports_floor value (by norm_num)
    (by norm_num) reading
  have less := gauge 29 (by norm_num)
  norm_num at less
  rw [field, less]

/-- A single hundredth of an inch is not reported at all. -/
theorem hundredth_not_reported :
    ¬ ∀ (inches : Binary32) (r : Rat) (reading : Reading), inches.toRat? = some r → 0 ≤ r →
      r < 9.995 → ∃ reported : Int,
        integer? (rainField (weatherBlock reading inches).toList) = some reported ∧
        |reported - 100 * r| ≤ 1 / 2 := by
  intro nearest
  have value : (Binary.round false (1 / 100) : Binary32).toRat? = some (5368709 / 536870912) := by
    decide +kernel
  have nothing : rainHundredths (Binary.round false (1 / 100)) = 0 := by decide +kernel
  obtain ⟨reported, field, near⟩ := nearest _ _ { timestamp := .epoch, stationName := "backyard" }
    value (by norm_num) (by norm_num)
  rw [rainField_weatherBlock, integer?_paddedInt, nothing] at field
  obtain rfl := Option.some.inj field
  norm_num [abs_le] at near

end WeatherRelay.WeatherLine
