import WeatherRelay.Proofs.Position.Compressed
import WeatherRelay.Proofs.Position.OnGlobe

/-! What is written of an angle is close to it.

The part of a degree is rounded, and so are its minutes and their hundredths, but only by small parts
of a hundredth. The last step, to whole hundredths, adds no more than a half to that, and a carry adds
nothing. The sign of an angle shows in its hemisphere alone.
-/

set_option autoImplicit false

namespace WeatherRelay

namespace Binary

/-- The integer below a half more is no farther away than a half. -/
theorem floor_add_half_near (v : Rat) : |((v + 1 / 2).floor : Rat) - v| ≤ 1 / 2 := by
  have below := Rat.floor_le (v + 1 / 2)
  have above : v + 1 / 2 < (v + 1 / 2).floor + 1 := by exact_mod_cast Rat.lt_floor_add_one _
  rw [abs_le]
  constructor <;> linarith

theorem toUInt32_round_natCast {n : Nat} (small : n < 2 ^ 32) :
    (round false (n : Rat) : Binary64).toUInt32 = n := by
  obtain ⟨rank, rounded, magnitude⟩ := round_of_holds (by decide) (Nat.cast_nonneg n)
    (Format.double_holds (lt_trans small (by decide)))
  have cut := toUInt32_eq_floor (x := .finite false rank) (congrArg some magnitude)
    (Nat.cast_nonneg n) (by exact_mod_cast small)
  rw [← Int.cast_natCast (R := Rat), Rat.floor_intCast] at cut
  rw [rounded]
  exact_mod_cast cut

theorem abs_neg_eq {format : Format} (x : Binary format) : (-x).abs = x.abs := by cases x <;> rfl

variable {x : Binary64} {v : Rat} (value : x.toRat? = some v)
include value

theorem below_zero_iff : x.below 0 = true ↔ v < 0 := by
  have zero : (0 : Binary64).toRat? = some ((0 : Nat) : Rat) := toRat?_ofNat (by decide)
  rw [below_iff_lt value zero, Nat.cast_zero]

/-- A product below a power of two is off by no more than half the unit there. -/
theorem mul_ofNat_near {n : Nat} {product : Rat} {exponent : Int} (factor : n < 2 ^ 53)
    (value' : (x * (OfNat.ofNat n : Binary64)).toRat? = some product)
    (small : |v * n| < 2 ^ (exponent + 53)) (least : -1074 ≤ exponent) :
    |product - v * n| ≤ 2 ^ exponent / 2 := by
  obtain ⟨zeroSign, multiplied⟩ := exists_mul_eq_round value (toRat?_ofNat factor)
  rw [multiplied] at value'
  exact round_near value' small least

theorem toUInt32_roundAway_near {bound : Nat} (upTo : UpTo bound x) (small : bound < 2 ^ 31) :
    |(x.roundAway.toUInt32 : Rat) - v| ≤ 1 / 2 := by
  obtain ⟨rank, rfl, le⟩ := upTo
  obtain rfl : Format.double.magnitude rank = v := Option.some.inj value
  have nonneg := Format.double.magnitude_nonneg rank
  have fits : (bound : Rat) < 2 ^ 31 := by exact_mod_cast small
  have near := floor_add_half_near (Format.double.magnitude rank)
  obtain ⟨whole, floored⟩ : ∃ whole : Nat, (Format.double.magnitude rank + 1 / 2).floor = whole :=
    Int.eq_ofNat_of_zero_le (Rat.le_floor_iff.mpr (by push_cast; linarith))
  rw [floored, Int.cast_natCast] at near
  have room : whole < 2 ^ 32 := by
    have below : (whole : Rat) < 2 ^ 32 := by linarith [le_of_abs_le near]
    exact_mod_cast below
  rwa [roundAway_finite, floored, Int.cast_natCast, toUInt32_round_natCast room]

end Binary

namespace Position

open Format (double)
open WeatherLine (angleOf)

/-- All roundings but the last one are off by less than a billionth of a hundredth. -/
theorem hundredthsOf_near {rest : Rat} (nonneg : 0 ≤ rest) (lt : rest < 1) :
    |(hundredthsOf rest : Rat) - 6000 * rest| ≤ 1 / 2 + 1 / 10 ^ 9 := by
  have upTo := upTo_hundredths nonneg lt.le
  obtain ⟨part, partValue, partNonneg, partLe⟩ := (upTo_part nonneg lt.le).exists_toRat?
  obtain ⟨minutes, minutesValue, minutesNonneg, minutesLe⟩ :=
    (upTo_minutes nonneg lt.le).exists_toRat?
  obtain ⟨hundredths, hundredthsValue, -, -⟩ := upTo.exists_toRat?
  have first : |part - rest| ≤ 2 ^ (-53 : Int) / 2 := by
    refine Binary.round_near partValue ?_ (by decide)
    rw [abs_of_nonneg nonneg]
    exact lt
  have second : |minutes - part * 60| ≤ 2 ^ (-47 : Int) / 2 := by
    refine Binary.mul_ofNat_near partValue (by decide) minutesValue ?_ (by decide)
    rw [abs_of_nonneg (by positivity)]
    norm_num at partLe ⊢
    linarith
  have third : |hundredths - minutes * 100| ≤ 2 ^ (-40 : Int) / 2 := by
    refine Binary.mul_ofNat_near minutesValue (by decide) hundredthsValue ?_ (by decide)
    rw [abs_of_nonneg (by positivity)]
    norm_num at minutesLe ⊢
    linarith
  have last := Binary.toUInt32_roundAway_near hundredthsValue upTo (by decide)
  rw [abs_le] at first second third last ⊢
  rw [hundredthsOf]
  norm_num at first second third last ⊢
  constructor <;> linarith

section Angles

variable {angle other : Binary64} {v w : Rat} (value : angle.toRat? = some v)
include value

theorem written_near (small : |v| < 2 ^ 32 - 1) :
    |(written angle : Rat) - |v| * 6000| ≤ 1 / 2 + 1 / 10 ^ 9 := by
  obtain ⟨negative, rank, rfl, rfl⟩ := Binary.exists_finite_of_toRat? value
  rw [Binary.abs_signed] at small ⊢
  have near := hundredthsOf_near (Int.fract_nonneg (double.magnitude rank)) (Int.fract_lt_one _)
  have lower : 0 ≤ (double.magnitude rank).floor :=
    Int.floor_nonneg.mpr (double.magnitude_nonneg rank)
  have whole : (((double.magnitude rank).floor.toNat : Nat) : Rat) =
      (double.magnitude rank).floor := by exact_mod_cast Int.toNat_of_nonneg lower
  have parts : ((double.magnitude rank).floor : Rat) + Int.fract (double.magnitude rank) =
      double.magnitude rank := Int.floor_add_fract _
  rw [written_finite _ _ small]
  push_cast
  rw [whole]
  convert near using 2
  linarith

theorem written_le_written (value' : other.toRat? = some w) (le : |v| ≤ |w|)
    (small : |w| < 2 ^ 32 - 1) : written angle ≤ written other := by
  obtain ⟨negative, rank, rfl, rfl⟩ := Binary.exists_finite_of_toRat? value
  obtain ⟨negative', rank', rfl, rfl⟩ := Binary.exists_finite_of_toRat? value'
  rw [Binary.abs_signed] at small
  rw [Binary.abs_signed, Binary.abs_signed, double.magnitude_strictMono.le_iff_le] at le
  exact written_mono le small

/-- Degrees and minutes are read back from a text of fixed length, and the sign is the hemisphere. -/
theorem shows_text {width most : Nat} (within : |v| ≤ most) (room : most + 1 < 10 ^ width)
    (small : most < 2 ^ 53) (positive : 0 < width) (below above : Char) :
    Shows width below above (angleText width angle (if angle.below 0 then below else above))
      ⟨(degreesAndMinutes angle).1, (degreesAndMinutes angle).2,
        if v < 0 then below else above⟩ := by
  have degrees : (degreesAndMinutes angle).1 ≤ most + 1 := by
    obtain ⟨negative, rank, rfl, rfl⟩ := Binary.exists_finite_of_toRat? value
    rw [Binary.abs_signed] at within
    exact (degreesAndMinutes_bounds small ⟨rank, rfl, within⟩).1
  refine (shows_text_iff positive angle below above _).mpr ⟨lt_of_le_of_lt degrees room, ?_⟩
  rw [angleOf]
  simp only [Binary.below_zero_iff value]

end Angles

/-- Degrees and minutes in text, without the hemisphere. -/
def digitsText (width : Nat) (angle : Binary64) : String :=
  zeroPad width (toString (degreesAndMinutes angle).1) ++
    zeroPad 2 (toString ((degreesAndMinutes angle).2 / 100)) ++ "." ++
    zeroPad 2 (toString ((degreesAndMinutes angle).2 % 100))

theorem angleText_eq (width : Nat) (angle : Binary64) (hemisphere : Char) :
    angleText width angle hemisphere = digitsText width angle ++ hemisphere.toString := rfl

theorem digitsText_neg (width : Nat) (angle : Binary64) :
    digitsText width (-angle) = digitsText width angle := by
  have same : degreesAndMinutes (-angle) = degreesAndMinutes angle := by
    unfold degreesAndMinutes
    rw [Binary.abs_neg_eq]
  rw [digitsText, same, digitsText]

/-- Two texts that are the same up to the hemisphere at their ends. -/
def Mirrored (below above : Char) (first second : String) : Prop :=
  ∃ digits, (first = digits ++ below.toString ∧ second = digits ++ above.toString) ∨
    (first = digits ++ above.toString ∧ second = digits ++ below.toString)

theorem mirrored_angleText {angle : Binary64} {v : Rat} (value : angle.toRat? = some v) (ne : v ≠ 0)
    (width : Nat) (below above : Char) :
    Mirrored below above (angleText width angle (if angle.below 0 then below else above))
      (angleText width (-angle) (if (-angle).below 0 then below else above)) := by
  have negated : (-angle).toRat? = some (-v) := Binary.toRat?_neg value
  refine ⟨digitsText width angle, ?_⟩
  simp only [angleText_eq, digitsText_neg, Binary.below_zero_iff value,
    Binary.below_zero_iff negated]
  rcases lt_or_gt_of_ne ne with negative | positive
  · rw [if_pos negative, if_neg (by linarith)]
    exact .inl ⟨rfl, rfl⟩
  · rw [if_neg (by linarith), if_pos (by linarith)]
    exact .inr ⟨rfl, rfl⟩

/-- What is written of an angle is its degrees and less than sixty minutes, off by no more than half
a hundredth of a minute and a billionth of one, and in the order of the angles. Latitudes and
longitudes are texts of fixed lengths that show just that, and opposite ones only differ in their
hemisphere. -/
theorem position_text_accurate :
    (∀ angle v, angle.toRat? = some v → |v| ≤ 180 →
      (degreesAndMinutes angle).2 < 6000 ∧
        |(written angle : Rat) - |v| * 6000| ≤ 1 / 2 + 1 / 10 ^ 9) ∧
    (∀ angle other v w, angle.toRat? = some v → other.toRat? = some w → |v| ≤ |w| → |w| ≤ 180 →
      written angle ≤ written other) ∧
    (∀ latitude v, latitude.toRat? = some v → |v| ≤ 90 →
      Shows 2 'S' 'N' (latitudeText latitude)
        ⟨(degreesAndMinutes latitude).1, (degreesAndMinutes latitude).2,
          if v < 0 then 'S' else 'N'⟩) ∧
    (∀ longitude v, longitude.toRat? = some v → |v| ≤ 180 →
      Shows 3 'W' 'E' (longitudeText longitude)
        ⟨(degreesAndMinutes longitude).1, (degreesAndMinutes longitude).2,
          if v < 0 then 'W' else 'E'⟩) ∧
    ∀ angle v, angle.toRat? = some v → v ≠ 0 →
      Mirrored 'S' 'N' (latitudeText angle) (latitudeText (-angle)) ∧
      Mirrored 'W' 'E' (longitudeText angle) (longitudeText (-angle)) := by
  refine ⟨?_, ?_, ?_, ?_, ?_⟩
  · intro angle v value within
    exact ⟨minutes_lt angle, written_near value (by linarith)⟩
  · intro angle other v w value value' le within
    exact written_le_written value value' le (by linarith)
  · intro latitude v value within
    exact shows_text value (by exact_mod_cast within) (by decide) (by decide) (by decide) 'S' 'N'
  · intro longitude v value within
    exact shows_text value (by exact_mod_cast within) (by decide) (by decide) (by decide) 'W' 'E'
  · intro angle v value ne
    exact ⟨mirrored_angleText value ne 2 'S' 'N', mirrored_angleText value ne 3 'W' 'E'⟩

/-- Less than a thousandth of a minute below forty-five degrees, where the minutes are carried. -/
theorem position_text_accurate_carried :
    let angle : Binary64 := 44.99999904632568359375
    let v : Rat := 45 - 1 / 2 ^ 20
    angle.toRat? = some v ∧ degreesAndMinutes angle = (45, 0) ∧
      |(written angle : Rat) - |v| * 6000| ≤ 1 / 2 + 1 / 10 ^ 9 ∧ written angle ≤ written 45 ∧
      latitudeText angle = "4500.00N" ∧ Shows 2 'S' 'N' "4500.00N" ⟨45, 0, 'N'⟩ ∧
      longitudeText (-angle) = "04500.00W" ∧ Shows 3 'W' 'E' "04500.00W" ⟨45, 0, 'W'⟩ ∧
      Mirrored 'W' 'E' (longitudeText angle) "04500.00W" := by
  intro angle v
  obtain ⟨near, ordered, latitude, longitude, mirrored⟩ := position_text_accurate
  have value : angle.toRat? = some v := by decide +kernel
  have opposite : (-angle).toRat? = some (-v) := by decide +kernel
  have whole : (45 : Binary64).toRat? = some 45 := by decide +kernel
  have size : |v| = 45 - 1 / 2 ^ 20 := by norm_num [v, abs_eq_self]
  have parts : degreesAndMinutes angle = (45, 0) := by decide +kernel
  have parts' : degreesAndMinutes (-angle) = (45, 0) := by decide +kernel
  have north : latitudeText angle = "4500.00N" := by decide +kernel
  have west : longitudeText (-angle) = "04500.00W" := by decide +kernel
  have showsNorth := latitude angle v value (by rw [size]; norm_num)
  have showsWest := longitude (-angle) (-v) opposite (by rw [abs_neg, size]; norm_num)
  rw [north, parts, if_neg (by norm_num [v])] at showsNorth
  rw [west, parts', if_pos (by norm_num [v])] at showsWest
  have sides := (mirrored angle v value (by norm_num [v])).2
  rw [west] at sides
  exact ⟨value, parts, (near angle v value (by rw [size]; norm_num)).2,
    ordered angle 45 v 45 value whole (by rw [size]; norm_num) (by norm_num), north, showsNorth,
    west, showsWest, sides⟩

end Position

end WeatherRelay
