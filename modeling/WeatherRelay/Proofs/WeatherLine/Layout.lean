import WeatherRelay.Proofs.Binary.Value
import WeatherRelay.Proofs.WeatherLine.Decoding

/-! The columns of the weather in a report line.

A field is padded to its width and never cut to it. Humidity alone is held within its two digits;
every other number takes as many characters as it needs, and what stands behind it moves. So the
block is never shorter than its layout, and it keeps to it exactly for numbers within the bounds of
their fields.
-/

set_option autoImplicit false

namespace WeatherRelay.WeatherLine

open Decimal (padded)

section Widths

variable {width : Nat}

theorem length_padded_eq_iff (positive : 0 < width) (n : Nat) :
    width ≤ (padded width n).length ∧ ((padded width n).length = width ↔ n < 10 ^ width) := by
  have digits := Nat.length_toDigits_le_iff (b := 10) (by decide) positive (n := n)
  simp only [padded, List.length_append, List.length_replicate]
  omega

/-- A field is at least as wide as it should be, and just as wide where its number has room. -/
theorem length_paddedInt_eq_iff (two : 2 ≤ width) (value : Int) :
    width ≤ (paddedInt width value).toList.length ∧
      ((paddedInt width value).toList.length = width ↔ FitsWidth width value) := by
  have positive : 0 < 10 ^ width := Nat.pow_pos (by decide)
  have signed : 0 < 10 ^ (width - 1) := Nat.pow_pos (by decide)
  rw [toList_paddedInt]
  unfold FitsWidth
  split
  case isTrue negative =>
    obtain ⟨least, fits⟩ := length_padded_eq_iff (by omega : 0 < width - 1) value.natAbs
    rw [List.length_cons]
    omega
  case isFalse nonneg =>
    obtain ⟨least, fits⟩ := length_padded_eq_iff (by omega : 0 < width) value.natAbs
    omega

end Widths

/-- A block with every field at its offset: three characters for each of wind direction, wind speed,
temperature and rain, two digits of humidity and five characters of pressure. -/
def FixedLayout (block : List Char) : Prop :=
  ∃ direction speed temperature rain humidity pressure : List Char,
    block = direction ++ ("/".toList ++ (speed ++ ("g...t".toList ++ (temperature ++
      ("P".toList ++ (rain ++ ("h".toList ++ (humidity ++ ("b".toList ++ pressure))))))))) ∧
    direction.length = 3 ∧ speed.length = 3 ∧ temperature.length = 3 ∧ rain.length = 3 ∧
    humidity.length = 2 ∧ humidity.all Char.isDigit = true ∧ pressure.length = 5

theorem FixedLayout.length_eq {block : List Char} (layout : FixedLayout block) :
    block.length = 28 := by
  obtain ⟨direction, speed, temperature, rain, humidity, pressure, rfl, sizes⟩ := layout
  have marks : "/".toList.length = 1 ∧ "g...t".toList.length = 5 ∧ "P".toList.length = 1 ∧
      "h".toList.length = 1 ∧ "b".toList.length = 1 := by decide
  simp only [List.length_append]
  omega

theorem humidity_nonneg (percent : Binary32) : 0 ≤ humidity percent := by
  unfold humidity
  dsimp only
  split <;> omega

namespace Weather

theorem length_text_eq_iff (weather : Weather) (humidity : FitsWidth 2 weather.humidity) :
    28 ≤ weather.text.toList.length ∧ (weather.text.toList.length = 28 ↔ weather.Fits) := by
  have direction := length_paddedInt_eq_iff (by decide : 2 ≤ 3) weather.windDirection
  have speed := length_paddedInt_eq_iff (by decide : 2 ≤ 3) weather.windSpeed
  have temperature := length_paddedInt_eq_iff (by decide : 2 ≤ 3) weather.temperature
  have rain := length_paddedInt_eq_iff (by decide : 2 ≤ 3) weather.rain
  have pressure := length_paddedInt_eq_iff (by decide : 2 ≤ 5) weather.pressure
  have marks : "/".toList.length = 1 ∧ "g...t".toList.length = 5 ∧ "P".toList.length = 1 ∧
      "h".toList.length = 1 ∧ "b".toList.length = 1 := by decide
  have total := congrArg List.length weather.toList_text
  simp only [List.length_append, length_paddedInt humidity] at total
  refine ⟨by omega, fun exact => ?_, length_text⟩
  -- No field is short, so none is long either.
  exact ⟨direction.2.mp (by omega), speed.2.mp (by omega), temperature.2.mp (by omega),
    rain.2.mp (by omega), humidity, pressure.2.mp (by omega)⟩

end Weather

/-- The values that have room in their fields: integer parts of three or five characters, rain as
hundredths of an inch and pressure as tenths of a millibar. What is no number is written as zero. -/
structure HasRoom (reading : Reading) (dayRain : Binary32) : Prop where
  windDirection : reading.windDir.Within (-100) 1000
  windSpeed : reading.windSpeed.Within (-100) 1000
  temperature : reading.outTemp.Within (-100) 1000
  rain : dayRain.Within (-1) 10
  /-- In inches of mercury. -/
  pressure : reading.barometer.Within (-29.529983) 295.29983

theorem fitsWidth_toInt64_iff {format : Format} {width : Nat} (two : 2 ≤ width) (short : width ≤ 18)
    (x : Binary format) :
    FitsWidth width x.toInt64 ↔ x.Within (-(10 ^ (width - 1) : Nat)) (10 ^ width : Nat) := by
  have positive : 0 < 10 ^ width := Nat.pow_pos (by decide)
  have signed : 0 < 10 ^ (width - 1) := Nat.pow_pos (by decide)
  have small : 10 ^ width ≤ 10 ^ 18 := Nat.pow_le_pow_right (by decide) short
  have smaller : 10 ^ (width - 1) ≤ 10 ^ 18 := Nat.pow_le_pow_right (by decide) (by omega)
  unfold FitsWidth
  cases x with
  | nan =>
    have zero : (Binary.nan : Binary format).toInt64 = 0 := rfl
    refine iff_of_true ?_ (.inl rfl)
    rw [zero]
    omega
  | infinity negative =>
    have saturated : (Binary.infinity negative : Binary format).toInt64 =
        if negative then -(2 ^ 63) else 2 ^ 63 - 1 := rfl
    refine iff_of_false ?_ (Binary.not_within_infinity negative)
    rw [saturated]
    split <;> omega
  | finite negative rank =>
    rw [Binary.within_iff rfl, Binary.toInt64_of_toRat? rfl,
      ← Binary.neg_lt_integerPart_iff signed, ← Binary.integerPart_lt_iff positive]
    omega

theorem fitsWidth_rainHundredths_iff (inches : Binary32) :
    FitsWidth 3 (rainHundredths inches) ↔ inches.Within (-1) 10 := by
  have hundred : (100 : Binary64).toRat? = some ((100 : Nat) : Rat) :=
    Binary.toRat?_ofNat (by decide)
  unfold rainHundredths
  rw [fitsWidth_toInt64_iff (by decide) (by decide)]
  refine Binary.within_convert_mul_iff hundred (by norm_num) (fun x v value => ?_) inches
  rw [Binary.within_iff (Binary.toRat?_convert_mul value (by decide))]
  norm_num
  constructor
  · rintro ⟨above, below⟩
    constructor <;> linarith
  · rintro ⟨above, below⟩
    constructor <;> linarith

/-- Tenths of a millibar in an inch of mercury, as the constant has them. -/
def millibarFactor : Rat := 2978698972135095 / 8796093022208

theorem toRat?_tenthMillibars : tenthMillibars.toRat? = some millibarFactor := by
  decide +kernel

section Pressure

variable {x : Binary32} {v w : Rat} {zeroSign : Bool} (value : x.toRat? = some v)
  (product : (Binary.round zeroSign (v * millibarFactor) : Binary64).toRat? = some w)
include value product

theorem pressure_lt_iff : w < 100000 ↔ v < 295.29983 := by
  have last : Format.single.magnitude 1133749856 = 302387 / 1024 := by decide +kernel
  have next : Format.single.magnitude (1133749856 + 1) = 9676385 / 32768 := by decide +kernel
  have held := Format.double_holds_div (n := 25599999) (k := 8) (by decide) (by decide)
  rw [← abs_of_nonneg (by positivity : (0 : Rat) ≤ (25599999 : Nat) / 2 ^ 8)] at held
  have step : w < (100000 : Nat) ↔ v < 295.29983 := Binary.round_mul_lt_iff value product
    (by norm_num [millibarFactor]) (by rw [last]; norm_num) (by rw [next]; norm_num) (by decide)
    (by rw [next]; norm_num [millibarFactor]) (by rw [last]; norm_num [millibarFactor])
    (by norm_num) held
  exact_mod_cast step

theorem lt_pressure_iff : -10000 < w ↔ -29.529983 < v := by
  have last : Format.single.magnitude 1106001255 = 15482215 / 524288 := by decide +kernel
  have next : Format.single.magnitude (1106001255 + 1) = 1935277 / 65536 := by decide +kernel
  have held := Format.double_holds_div (n := 40959999) (k := 12) (by decide) (by decide)
  rw [← abs_of_nonneg (by positivity : (0 : Rat) ≤ (40959999 : Nat) / 2 ^ 12)] at held
  have negated := Binary.toRat?_neg product
  rw [← Binary.round_neg, ← neg_mul] at negated
  have step : -w < (10000 : Nat) ↔ -v < 29.529983 := Binary.round_mul_lt_iff
    (Binary.toRat?_neg value) negated (by norm_num [millibarFactor]) (by rw [last]; norm_num)
    (by rw [next]; norm_num) (by decide) (by rw [next]; norm_num [millibarFactor])
    (by rw [last]; norm_num [millibarFactor]) (by norm_num) held
  rw [neg_lt, neg_lt (a := (29.529983 : Rat))]
  exact_mod_cast step

end Pressure

-- A double number has room for the pressure of every single one.
theorem exists_toRat?_pressure {x : Binary32} {v : Rat} (value : x.toRat? = some v)
    (zeroSign : Bool) :
    ∃ w, (Binary.round zeroSign (v * millibarFactor) : Binary64).toRat? = some w := by
  obtain ⟨negative, rank, rfl, rfl⟩ := Binary.exists_finite_of_toRat? value
  refine Binary.exists_toRat?_round (by decide) ?_
    (Format.double_holds_multiple rank (by decide : 339 < 2 ^ 29)) zeroSign
  rw [abs_mul, Binary.abs_signed]
  exact mul_le_mul_of_nonneg_left (by norm_num [millibarFactor]) (Format.magnitude_nonneg _ _)

theorem fitsWidth_pressure_iff (barometer : Binary32) :
    FitsWidth 5 (pressure barometer) ↔ barometer.Within (-29.529983) 295.29983 := by
  unfold pressure
  rw [fitsWidth_toInt64_iff (by decide) (by decide)]
  refine Binary.within_convert_mul_iff toRat?_tenthMillibars (by norm_num [millibarFactor])
    (fun x v value => ?_) barometer
  obtain ⟨zeroSign, rounded⟩ := Binary.exists_mul_eq_round (Binary.toRat?_convert value)
    toRat?_tenthMillibars
  obtain ⟨w, product⟩ := exists_toRat?_pressure value zeroSign
  have bounds : ((10 ^ (5 - 1) : Nat) : Rat) = 10000 ∧ ((10 ^ 5 : Nat) : Rat) = 100000 := by
    norm_num
  rw [rounded, Binary.within_iff product, bounds.1, bounds.2, lt_pressure_iff value product,
    pressure_lt_iff value product]

/-- The numbers of a reading fit into their fields exactly within the bounds of their values. -/
theorem fits_weatherOf_iff {reading : Reading} {dayRain : Binary32} :
    (weatherOf reading dayRain).Fits ↔ HasRoom reading dayRain := by
  have three (x : Binary32) : FitsWidth 3 x.toInt64 ↔ x.Within (-100) 1000 := by
    rw [fitsWidth_toInt64_iff (by decide) (by decide)]
    norm_num
  constructor
  · rintro ⟨direction, speed, temperature, rain, -, pressure⟩
    exact ⟨(three _).mp direction, (three _).mp speed, (three _).mp temperature,
      (fitsWidth_rainHundredths_iff _).mp rain, (fitsWidth_pressure_iff _).mp pressure⟩
  · rintro ⟨direction, speed, temperature, rain, pressure⟩
    exact ⟨(three _).mpr direction, (three _).mpr speed, (three _).mpr temperature,
      (fitsWidth_rainHundredths_iff _).mpr rain, fitsWidth_humidity _,
      (fitsWidth_pressure_iff _).mpr pressure⟩

theorem fixedLayout_of_fits {reading : Reading} {dayRain : Binary32}
    (fits : (weatherOf reading dayRain).Fits) :
    FixedLayout (weatherBlock reading dayRain).toList := by
  have digits : (paddedInt 2 (humidity reading.outHumidity)).toList.all Char.isDigit = true := by
    rw [toList_paddedInt, if_neg (not_lt.mpr (humidity_nonneg _))]
    exact Decimal.all_isDigit_padded 2 _
  exact ⟨_, _, _, _, _, _, (weatherOf reading dayRain).toList_text,
    length_paddedInt fits.windDirection, length_paddedInt fits.windSpeed,
    length_paddedInt fits.temperature, length_paddedInt fits.rain, length_paddedInt fits.humidity,
    digits, length_paddedInt fits.pressure⟩

/-- Behind the symbol code and in front of the point stands a block of no less than 28 characters,
with two digits of humidity whatever it is. It is laid out in fixed fields exactly as long as the
other five numbers are within their bounds, and one that is not makes it longer. -/
theorem weatherBlock_fixed_iff (station : Station) (reading : Reading) (dayRain : Binary32) :
    (render station reading dayRain).toList =
        (station.callsign ++ ">APRS,TCPIP:!" ++ Position.latitudeText station.latitude ++
          station.symbolTable.toString ++ Position.longitudeText station.longitude).toList ++
        station.symbolCode :: (weatherBlock reading dayRain).toList ++
        '.' :: (software ++ "-" ++ version ++ commentText station.comment).toList ∧
      28 ≤ (weatherBlock reading dayRain).length ∧
      (FixedLayout (weatherBlock reading dayRain).toList ↔ HasRoom reading dayRain) ∧
      ((weatherBlock reading dayRain).length = 28 ↔ HasRoom reading dayRain) := by
  obtain ⟨least, exact⟩ := (weatherOf reading dayRain).length_text_eq_iff
    (fitsWidth_humidity reading.outHumidity)
  have block : (weatherOf reading dayRain).text = weatherBlock reading dayRain := rfl
  rw [block, String.length_toList] at least exact
  refine ⟨?line, least, ?layout, exact.trans fits_weatherOf_iff⟩
  case line => simp [render, positionBlock]
  case layout =>
    rw [← fits_weatherOf_iff]
    refine ⟨fun layout => exact.mp ?_, fixedLayout_of_fits⟩
    rw [← String.length_toList]
    exact layout.length_eq

/-- Ten inches of rain, and a wind of a thousand miles an hour. -/
theorem ten_inches_widen_block :
    let reading : Reading := { timestamp := .epoch, stationName := "backyard", windSpeed := 1000 }
    weatherBlock reading 10 = "000/1000g...t000P1000h00b00000" ∧
      ¬ FixedLayout (weatherBlock reading 10).toList := by
  intro reading
  have block : weatherBlock reading 10 = "000/1000g...t000P1000h00b00000" := by decide +kernel
  refine ⟨block, fun layout => ?_⟩
  have size := layout.length_eq
  rw [block] at size
  exact absurd size (by decide)

end WeatherRelay.WeatherLine
