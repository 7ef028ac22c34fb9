import WeatherRelay.Position
import WeatherRelay.Proofs.Base91.Numeral
import WeatherRelay.Proofs.Binary.Value

/-! Compressed positions on the globe.

A coordinate is compressed to the whole steps between an edge of the globe and it. Its distance from
the edge is rounded, and so is the product with the steps of a degree, but only by small parts of a
step, and not beyond the steps to the far edge. So four digits always have room for them, and the
integer part is off by hardly more than the step that it cuts off.
-/

set_option autoImplicit false

namespace WeatherRelay

namespace Binary

variable {format : Format}

theorem product_comm (x y : Binary format) : x * y = y * x := by
  have swapped : ∀ left right : Bool, (left != right) = (right != left) := by decide
  change mul x y = mul y x
  cases x <;> cases y <;> simp only [mul, swapped, mul_comm]

theorem UpTo.exists_toRat? {x : Binary format} {bound : Rat} (upTo : UpTo bound x) :
    ∃ v, x.toRat? = some v ∧ 0 ≤ v ∧ v ≤ bound := by
  obtain ⟨rank, rfl, le⟩ := upTo
  exact ⟨_, rfl, format.magnitude_nonneg rank, le⟩

/-- A number that is not too great for a word loses what is behind its point. -/
theorem toUInt32_eq_floor {x : Binary format} {v : Rat} (value : x.toRat? = some v) (nonneg : 0 ≤ v)
    (small : v < 2 ^ 32) : (x.toUInt32 : Int) = v.floor := by
  obtain ⟨negative, rank, rfl, same⟩ := exists_finite_of_toRat? value
  have lower : 0 ≤ v.floor := Int.floor_nonneg.mpr nonneg
  have upper : v.floor < 2 ^ 32 := Rat.floor_lt_iff.mpr (by exact_mod_cast small)
  have part : integerPart v = v.floor := if_neg nonneg.not_gt
  have last : twoTo 32 = 2 ^ 32 := rfl
  simp only [toUInt32, truncate, ← same, part, last]
  omega

end Binary

namespace Position

open Format (double)

/-- The whole steps in a distance, if a degree has so many. -/
def stepsIn (perDegree : Nat) (distance : Rat) : Nat :=
  ((OfNat.ofNat perDegree : Binary64) * Binary.round false distance).toUInt32

section Steps

variable {perDegree degrees : Nat} {distance farther : Rat}

theorem stepsIn_le (nonneg : 0 ≤ distance) (le : distance ≤ degrees) (factor : perDegree < 2 ^ 53)
    (room : degrees < 2 ^ 53) (small : degrees * perDegree < 2 ^ 53) :
    stepsIn perDegree distance ≤ degrees * perDegree := by
  have upTo := Binary.upTo_round (by decide) nonneg le (Format.double_holds room)
  rw [stepsIn, Binary.product_comm]
  exact Binary.toUInt32_le (upTo.mul_ofNat factor small)

theorem stepsIn_mono (nonneg : 0 ≤ distance) (le : distance ≤ farther) (within : farther ≤ degrees)
    (factor : perDegree < 2 ^ 53) (room : degrees < 2 ^ 53) (small : degrees * perDegree < 2 ^ 53) :
    stepsIn perDegree distance ≤ stepsIn perDegree farther := by
  have upTo := Binary.upTo_round (by decide) (nonneg.trans le) within (Format.double_holds room)
  have ascending := Binary.ascending_round (by decide) nonneg le within (Format.double_holds room)
  rw [stepsIn, stepsIn, Binary.product_comm, Binary.product_comm _ (Binary.round false farther)]
  exact (ascending.mul_ofNat upTo factor small).toUInt32_le

/-- Both roundings together move a distance by no more than a part in a thousand of a step, and then
less than a step is cut off. -/
theorem stepsIn_near (nonneg : 0 ≤ distance) (le : distance ≤ degrees) (few : degrees < 2 ^ 9)
    (fine : perDegree < 2 ^ 19) (small : degrees * perDegree < 2 ^ 27) :
    |(stepsIn perDegree distance : Rat) - distance * perDegree| < 1.001 := by
  have factor : perDegree < 2 ^ 53 := lt_trans fine (by decide)
  have upTo : Binary.UpTo degrees (Binary.round false distance : Binary64) :=
    Binary.upTo_round (by decide) nonneg le (Format.double_holds (lt_trans few (by decide)))
  obtain ⟨rounded, value, lower, upper⟩ := upTo.exists_toRat?
  obtain ⟨product, value', lower', upper'⟩ :=
    (upTo.mul_ofNat factor (lt_trans small (by decide))).exists_toRat?
  have bounded : (degrees : Rat) * perDegree < 2 ^ 27 := by exact_mod_cast small
  rw [Nat.cast_mul] at upper'
  have cut := Binary.toUInt32_eq_floor value' lower' (by linarith)
  rw [Binary.product_comm] at cut
  -- The distance has a unit of no more than 2 ^ -44, and its product one of no more than 2 ^ -26.
  have first : |rounded - distance| ≤ 2 ^ (-44 : Int) / 2 := by
    refine Binary.round_near value ?_ (by decide)
    have bound : (degrees : Rat) < 2 ^ 9 := by exact_mod_cast few
    rw [abs_of_nonneg nonneg]
    exact lt_of_le_of_lt le bound
  have second : |product - rounded * perDegree| ≤ 2 ^ (-26 : Int) / 2 := by
    obtain ⟨zeroSign, multiplied⟩ := Binary.exists_mul_eq_round value (Binary.toRat?_ofNat factor)
    rw [multiplied] at value'
    refine Binary.round_near value' ?_ (by decide)
    rw [abs_of_nonneg (mul_nonneg lower (Nat.cast_nonneg _))]
    exact lt_of_le_of_lt (mul_le_mul_of_nonneg_right upper (Nat.cast_nonneg _)) bounded
  have scaled : |rounded * perDegree - distance * perDegree| ≤ 2 ^ (-44 : Int) / 2 * 2 ^ 19 := by
    have factor : (perDegree : Rat) ≤ 2 ^ 19 := by exact_mod_cast fine.le
    rw [← sub_mul, abs_mul, abs_of_nonneg (Nat.cast_nonneg (α := Rat) perDegree)]
    exact mul_le_mul first factor (Nat.cast_nonneg _) (by positivity)
  have below := Rat.floor_le product
  have above := Rat.lt_floor_add_one product
  rw [← cut] at below above
  rw [abs_le] at second scaled
  rw [stepsIn, abs_lt]
  norm_num at second scaled below above ⊢
  constructor <;> linarith

end Steps

/-! ### Coordinates -/

section Coordinates

variable {angle : Binary64} {v : Rat} (value : angle.toRat? = some v)
include value

theorem toUInt32_scaledLatitude : (scaledLatitude angle).toUInt32 = stepsIn 380926 (90 - v) := by
  have distance := Binary.round_false_add (by decide) (by norm_num)
    (Format.double_holds (by decide : 90 < 2 ^ 53)) (Binary.toRat?_neg value)
  rw [stepsIn, sub_eq_add_neg, ← Nat.cast_ofNat (R := Rat), ← distance]
  rfl

theorem toUInt32_scaledLongitude : (scaledLongitude angle).toUInt32 = stepsIn 190463 (180 + v) := by
  have distance := Binary.round_false_add (by decide) (by norm_num)
    (Format.double_holds (by decide : 180 < 2 ^ 53)) value
  rw [stepsIn, ← Nat.cast_ofNat (R := Rat), ← distance]
  rfl

end Coordinates

/-- A coordinate that is compressed without loss but for less than 1.001 of the steps to it. -/
structure Compresses (code : List UInt8) (scaled : Binary64) (steps : Rat) : Prop where
  atMost : scaled.toUInt32 ≤ 68566680
  room : scaled.toUInt32 < 91 ^ 4
  decodes : Base91.value code = scaled.toUInt32
  near : |(scaled.toUInt32 : Rat) - steps| < 1.001

theorem compresses_of_steps {perDegree degrees : Nat} {distance : Rat} {scaled : Binary64}
    (whole : scaled.toUInt32 = stepsIn perDegree distance) (nonneg : 0 ≤ distance)
    (le : distance ≤ degrees) (few : degrees < 2 ^ 9) (fine : perDegree < 2 ^ 19)
    (total : degrees * perDegree = 68566680) :
    Compresses (Base91.encodePosition (UInt32.ofNat scaled.toUInt32)) scaled
      (perDegree * distance) := by
  have steps := stepsIn_le nonneg le (lt_trans fine (by decide)) (lt_trans few (by decide))
    (total.trans_lt (by decide))
  have near := stepsIn_near nonneg le few fine (total.trans_lt (by decide))
  rw [total] at steps
  rw [mul_comm] at near
  rw [← whole] at steps near
  have room : scaled.toUInt32 < 91 ^ 4 := lt_of_le_of_lt steps (by decide)
  exact ⟨steps, room, Base91.value_encodePosition_ofNat room, near⟩

/-- Codes come in the order of their numbers. -/
theorem not_lex_of_le {fewer more : Nat} (le : fewer ≤ more) (room : more < 91 ^ 4) :
    ¬ List.Lex (· < ·) (Base91.encodePosition (UInt32.ofNat more))
      (Base91.encodePosition (UInt32.ofNat fewer)) := by
  have written := Base91.encodePosition_mem
  rw [Base91.lex_iff_value_lt (written _) (written _), Base91.value_encodePosition_ofNat room,
    Base91.value_encodePosition_ofNat (lt_of_le_of_lt le room)]
  exact le.not_gt

/-- The coordinates of every place on the globe, its poles and the antimeridian included, are
compressed to numbers that four digits have room for, which are read back and off by less than 1.001
from what they should be. Codes of latitudes go down from south to north, and codes of longitudes up
from west to east, or stay as they are. -/
theorem compressed_on_globe :
    (∀ latitude degrees, latitude.toRat? = some degrees → |degrees| ≤ 90 →
      Compresses (compressedLatitude latitude) (scaledLatitude latitude)
        (380926 * (90 - degrees))) ∧
    (∀ longitude degrees, longitude.toRat? = some degrees → |degrees| ≤ 180 →
      Compresses (compressedLongitude longitude) (scaledLongitude longitude)
        (190463 * (180 + degrees))) ∧
    (∀ southern northern low high, southern.toRat? = some low → northern.toRat? = some high →
      -90 ≤ low → low ≤ high → high ≤ 90 →
      ¬ List.Lex (· < ·) (compressedLatitude southern) (compressedLatitude northern)) ∧
    ∀ western eastern low high, western.toRat? = some low → eastern.toRat? = some high →
      -180 ≤ low → low ≤ high → high ≤ 180 →
      ¬ List.Lex (· < ·) (compressedLongitude eastern) (compressedLongitude western) := by
  refine ⟨?_, ?_, ?_, ?_⟩
  · intro latitude degrees value within
    obtain ⟨lower, upper⟩ := abs_le.mp within
    exact compresses_of_steps (toUInt32_scaledLatitude value) (by linarith)
      (by push_cast; linarith) (by decide) (by decide) (rfl : 180 * 380926 = 68566680)
  · intro longitude degrees value within
    obtain ⟨lower, upper⟩ := abs_le.mp within
    exact compresses_of_steps (toUInt32_scaledLongitude value) (by linarith)
      (by push_cast; linarith) (by decide) (by decide) (rfl : 360 * 190463 = 68566680)
  · intro southern northern low high value value' lower le upper
    have fewer : (scaledLatitude northern).toUInt32 ≤ (scaledLatitude southern).toUInt32 := by
      rw [toUInt32_scaledLatitude value, toUInt32_scaledLatitude value']
      exact stepsIn_mono (by linarith) (by linarith) (by push_cast; linarith)
        (by decide) (by decide) (by decide : 180 * 380926 < 2 ^ 53)
    refine not_lex_of_le fewer (lt_of_le_of_lt ?_ (by decide : 180 * 380926 < 91 ^ 4))
    rw [toUInt32_scaledLatitude value]
    exact stepsIn_le (by linarith) (by push_cast; linarith) (by decide) (by decide) (by decide)
  · intro western eastern low high value value' lower le upper
    have fewer : (scaledLongitude western).toUInt32 ≤ (scaledLongitude eastern).toUInt32 := by
      rw [toUInt32_scaledLongitude value, toUInt32_scaledLongitude value']
      exact stepsIn_mono (by linarith) (by linarith) (by push_cast; linarith)
        (by decide) (by decide) (by decide : 360 * 190463 < 2 ^ 53)
    refine not_lex_of_le fewer (lt_of_le_of_lt ?_ (by decide : 360 * 190463 < 91 ^ 4))
    rw [toUInt32_scaledLongitude value']
    exact stepsIn_le (by linarith) (by push_cast; linarith) (by decide) (by decide) (by decide)

/-- The worked example of the packet format, and the places with the greatest numbers: the south pole
and the antimeridian seen from the west. -/
theorem compressed_on_globe_examples :
    Compresses (compressedLatitude 49.5) (scaledLatitude 49.5) (380926 * (90 - 49.5)) ∧
    Compresses (compressedLongitude (-72.75)) (scaledLongitude (-72.75))
      (190463 * (180 + -72.75)) ∧
    ¬ List.Lex (· < ·) (compressedLatitude (-90)) (compressedLatitude 49.5) ∧
    ¬ List.Lex (· < ·) (compressedLongitude 180) (compressedLongitude (-72.75)) ∧
    compressedLatitude 49.5 = [53, 76, 33, 33] ∧ compressedLongitude (-72.75) = [60, 42, 101, 55] ∧
    (scaledLatitude (-90)).toUInt32 = 68566680 ∧ (scaledLongitude 180).toUInt32 = 68566680 := by
  obtain ⟨latitude, longitude, southward, eastward⟩ := compressed_on_globe
  have north : (49.5 : Binary64).toRat? = some 49.5 := by decide +kernel
  have west : (-72.75 : Binary64).toRat? = some (-72.75) := by decide +kernel
  have pole : (-90 : Binary64).toRat? = some (-90) := by decide +kernel
  have antimeridian : (180 : Binary64).toRat? = some 180 := by decide +kernel
  refine ⟨latitude _ _ north (by norm_num [abs_le]), longitude _ _ west (by norm_num [abs_le]),
    southward _ _ _ _ pole north ?_ ?_ ?_, eastward _ _ _ _ west antimeridian ?_ ?_ ?_,
    by decide +kernel⟩
  all_goals norm_num

end Position

end WeatherRelay
