import WeatherRelay.Proofs.Position.Accuracy

/-! What a report says can be told from its text, and nothing else is in it.

The numbers of a reading come back as they are, cut to integers; humidity does so between zero and a
hundred percent only. A position comes back to a hundredth of a minute. So two reports under one
callsign are the same text only if they say the same.
-/

set_option autoImplicit false

namespace WeatherRelay

/-- An angle without its sign in hundredths of a minute: those of its whole degrees, and those to
which the rest of it is rounded. -/
def Position.hundredthMinutes (angle : Binary64) : Nat :=
  6000 * angle.abs.floor.toUInt32 +
    ((angle.abs - angle.abs.floor) * 60 * 100).roundAway.toUInt32

namespace WeatherLine

open Position (degreesAndMinutes hundredthMinutes written)

/-- Sixty minutes to a degree, and the sign as a hemisphere. -/
def Angle.ofBinary (angle : Binary64) (below above : Char) : Angle where
  degrees := hundredthMinutes angle / 6000
  hundredths := hundredthMinutes angle % 6000
  hemisphere := if angle.below 0 then below else above

/-- What is to be reported of a reading, in integers. Humidity is reported below a hundred percent,
and zero stands for all the rest. -/
def Weather.ofReading (reading : Reading) (dayRain : Binary32) : Weather where
  windDirection := reading.windDir.toInt64
  windSpeed := reading.windSpeed.toInt64
  temperature := reading.outTemp.toInt64
  rain := ((dayRain.convert : Binary64) * 100).toInt64
  humidity :=
    if 0 < reading.outHumidity.toInt64 ∧ reading.outHumidity.toInt64 < 100 then
      reading.outHumidity.toInt64
    else 0
  pressure := ((reading.barometer.convert : Binary64) * (33.8638866666667 * 10)).toInt64

def Report.ofReading (station : Station) (reading : Reading) (dayRain : Binary32) : Report where
  latitude := .ofBinary station.latitude 'S' 'N'
  symbolTable := station.symbolTable
  longitude := .ofBinary station.longitude 'W' 'E'
  symbolCode := station.symbolCode
  weather := .ofReading reading dayRain
  comment := station.comment

/-- A station on the globe, and numbers that have room in their fields. -/
structure InRange (station : Station) (reading : Reading) (dayRain : Binary32) : Prop where
  latitude : station.latitude.abs.atMost 90 = true
  longitude : station.longitude.abs.atMost 180 = true
  windDirection : -99 ≤ reading.windDir.toInt64 ∧ reading.windDir.toInt64 ≤ 999
  windSpeed : -99 ≤ reading.windSpeed.toInt64 ∧ reading.windSpeed.toInt64 ≤ 999
  temperature : -99 ≤ reading.outTemp.toInt64 ∧ reading.outTemp.toInt64 ≤ 999
  rain : -99 ≤ ((dayRain.convert : Binary64) * 100).toInt64 ∧
    ((dayRain.convert : Binary64) * 100).toInt64 ≤ 999
  pressure :
    -9999 ≤ ((reading.barometer.convert : Binary64) * (33.8638866666667 * 10)).toInt64 ∧
    ((reading.barometer.convert : Binary64) * (33.8638866666667 * 10)).toInt64 ≤ 99999

section Angles

variable {angle : Binary64} {most : Nat} (small : most + 1 < 2 ^ 32)
  (within : angle.abs.atMost (Binary.round false most) = true)
include small within

theorem upTo_abs : Binary.UpTo (most : Rat) angle.abs :=
  Binary.upTo_abs_of_atMost (by decide) (Nat.cast_nonneg most)
    (Format.double_holds (by omega)) within

-- The degrees have room in 32 bits, so a carry moves sixty minutes and loses nothing.
theorem degreesAndMinutes_eq :
    degreesAndMinutes angle = (hundredthMinutes angle / 6000, hundredthMinutes angle % 6000) := by
  obtain ⟨degrees, rounded⟩ := Position.parts_le (by omega) (upTo_abs small within)
  unfold degreesAndMinutes hundredthMinutes
  dsimp only
  split
  case isTrue carried =>
    have last : twoTo 32 = 2 ^ 32 := rfl
    rw [last, Nat.mod_eq_of_lt (by omega)]
    exact Prod.ext (by dsimp only; omega) (by dsimp only; omega)
  case isFalse => exact Prod.ext (by dsimp only; omega) (by dsimp only; omega)

theorem angleOf_eq (below above : Char) : angleOf angle below above = .ofBinary angle below above := by
  unfold angleOf
  rw [degreesAndMinutes_eq small within]
  rfl

-- Degrees and minutes are rounded apart, the minutes after two multiplications. So the bound is not
-- one half.

/-- The hundredths are the nearest ones, but for a billionth of one. -/
theorem exists_hundredthMinutes_near :
    ∃ v, angle.toRat? = some v ∧
      |(hundredthMinutes angle : Rat) - |v| * 6000| ≤ 1 / 2 + 1 / 10 ^ 9 := by
  have whole : written angle = hundredthMinutes angle := by
    unfold written
    rw [degreesAndMinutes_eq small within]
    exact Nat.div_add_mod _ _
  obtain ⟨top, absolute, le⟩ := upTo_abs small within
  cases angle with
  | finite negative rank =>
    obtain rfl : rank = top := by
      cases absolute
      rfl
    have room : (most : Rat) + 1 < 2 ^ 32 := by exact_mod_cast small
    have below : Format.double.magnitude rank < 2 ^ 32 - 1 := by linarith
    refine ⟨_, rfl, whole ▸ Position.written_near rfl ?_⟩
    rwa [Binary.abs_signed]
  | infinity | nan => cases absolute

end Angles

theorem humidity_eq (percent : Binary32) :
    humidity percent =
      if 0 < percent.toInt64 ∧ percent.toInt64 < 100 then percent.toInt64 else 0 := by
  unfold humidity
  dsimp only
  split <;> split <;> omega

-- Only the angles are computed differently when they are written, in 32 bits and with a carry.
theorem reportOf_eq {station : Station} {reading : Reading} {dayRain : Binary32}
    (inRange : InRange station reading dayRain) :
    reportOf station reading dayRain = .ofReading station reading dayRain := by
  unfold reportOf weatherOf
  rw [angleOf_eq (by decide : 90 + 1 < 2 ^ 32) inRange.latitude,
    angleOf_eq (by decide : 180 + 1 < 2 ^ 32) inRange.longitude, humidity_eq]
  rfl

theorem fits_reportOf {station : Station} {reading : Reading} {dayRain : Binary32}
    (inRange : InRange station reading dayRain) : (reportOf station reading dayRain).Fits where
  latitude := fits_angleOf 2 (by decide) (by decide) inRange.latitude 'S' 'N'
  longitude := fits_angleOf 3 (by decide) (by decide) inRange.longitude 'W' 'E'
  weather :=
    have three : ∀ {value : Int}, -99 ≤ value ∧ value ≤ 999 → FitsWidth 3 value :=
      fitsWidth_of_between (by decide) (by decide) (by decide)
    { windDirection := three inRange.windDirection
      windSpeed := three inRange.windSpeed
      temperature := three inRange.temperature
      rain := three inRange.rain
      humidity := fitsWidth_humidity reading.outHumidity
      pressure := fitsWidth_of_between (by decide) (by decide) (by decide) inRange.pressure }

theorem read?_render {station : Station} {reading : Reading} {dayRain : Binary32}
    (inRange : InRange station reading dayRain) :
    Report.read? station.callsign (render station reading dayRain) =
      some (.ofReading station reading dayRain) := by
  rw [render_eq, ← reportOf_eq inRange]
  exact Report.read?_text station.callsign (fits_reportOf inRange)

/-- A report reads back by counting characters. What is read is the position to a hundredth of a
minute, the symbols, the numbers of the weather and the comment, and two reports under one callsign
are equal if and only if all of these are. -/
theorem render_uniquely_decodable {station other : Station} {reading otherReading : Reading}
    {dayRain otherRain : Binary32} (inRange : InRange station reading dayRain)
    (otherInRange : InRange other otherReading otherRain)
    (sameCallsign : other.callsign = station.callsign) :
    Report.read? station.callsign (render station reading dayRain) =
      some (.ofReading station reading dayRain) ∧
    (render station reading dayRain = render other otherReading otherRain ↔
      Report.ofReading station reading dayRain = .ofReading other otherReading otherRain) ∧
    ∀ angle, angle = station.latitude ∨ angle = station.longitude →
      ∃ v, angle.toRat? = some v ∧
        |(hundredthMinutes angle : Rat) - |v| * 6000| ≤ 1 / 2 + 1 / 10 ^ 9 := by
  have read := read?_render inRange
  have readOther := read?_render otherInRange
  refine ⟨read, ⟨fun same => ?_, fun same => ?_⟩, ?_⟩
  · rw [sameCallsign, ← same, read] at readOther
    exact Option.some.inj readOther
  · rw [render_eq, render_eq, reportOf_eq inRange, reportOf_eq otherInRange, same, sameCallsign]
  · rintro angle (rfl | rfl)
    · exact exists_hundredthMinutes_near (by decide : 90 + 1 < 2 ^ 32) inRange.latitude
    · exact exists_hundredthMinutes_near (by decide : 180 + 1 < 2 ^ 32) inRange.longitude

/-- A station in the northern and western hemispheres. Two of its reports that differ in their
temperature are told apart, and two that differ in how far the humidity is out of its range are
not. -/
theorem render_backyard_uniquely_decodable :
    let station : Station := {
      name := "backyard", callsign := "N0CALL-13", passcode := 13023, latitude := 49.5
      longitude := -72.75, symbolTable := '/', symbolCode := '_', comment := some "Backyard WX" }
    let reading : Reading := {
      timestamp := .epoch, stationName := "backyard", outTemp := -5, outHumidity := 100 }
    let warmer : Reading := { reading with outTemp := 68 }
    let drier : Reading := { reading with outHumidity := -2 }
    InRange station reading 0 ∧ InRange station warmer 0 ∧ InRange station drier 0 ∧
      Report.read? "N0CALL-13" (render station reading 0) =
        some {
          latitude := ⟨49, 3000, 'N'⟩, symbolTable := '/', longitude := ⟨72, 4500, 'W'⟩
          symbolCode := '_', weather := ⟨0, 0, -5, 0, 0, 0⟩, comment := some "Backyard WX" } ∧
      render station reading 0 ≠ render station warmer 0 ∧
      render station reading 0 = render station drier 0 := by
  intro station reading warmer drier
  have inRange : InRange station reading 0 :=
    ⟨by decide +kernel, by decide +kernel, by decide +kernel, by decide +kernel, by decide +kernel,
      by decide +kernel, by decide +kernel⟩
  have warmerInRange : InRange station warmer 0 :=
    ⟨by decide +kernel, by decide +kernel, by decide +kernel, by decide +kernel, by decide +kernel,
      by decide +kernel, by decide +kernel⟩
  have drierInRange : InRange station drier 0 :=
    ⟨by decide +kernel, by decide +kernel, by decide +kernel, by decide +kernel, by decide +kernel,
      by decide +kernel, by decide +kernel⟩
  obtain ⟨read, warmerSame, -⟩ := render_uniquely_decodable inRange warmerInRange rfl
  obtain ⟨-, drierSame, -⟩ := render_uniquely_decodable inRange drierInRange rfl
  refine ⟨inRange, warmerInRange, drierInRange, read.trans ?_, fun equal => ?_, drierSame.mpr ?_⟩
  · exact congrArg some (by decide +kernel)
  · have temperature := congrArg (·.weather.temperature) (warmerSame.mp equal)
    exact absurd temperature (by decide +kernel)
  · decide +kernel

end WeatherLine

end WeatherRelay
