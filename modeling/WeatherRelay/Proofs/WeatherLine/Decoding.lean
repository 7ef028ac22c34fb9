import WeatherRelay.Proofs.WeatherLine.Fields
import WeatherRelay.WeatherLine

/-! A report line is read back by counting characters.

Behind the callsign every field stands at an offset of its own, whatever the symbols and the comment
are, as long as the numbers fit into their fields.
-/

set_option autoImplicit false

namespace WeatherRelay.WeatherLine

structure Weather where
  windDirection : Int
  windSpeed : Int
  temperature : Int
  /-- Hundredths of an inch since midnight. -/
  rain : Int
  /-- Percent, with zero for full humidity. -/
  humidity : Int
  /-- Tenths of a millibar. -/
  pressure : Int
  deriving DecidableEq, Repr

namespace Weather

def text (weather : Weather) : String :=
  paddedInt 3 weather.windDirection ++ "/" ++ paddedInt 3 weather.windSpeed ++ "g...t" ++
    paddedInt 3 weather.temperature ++ "P" ++ paddedInt 3 weather.rain ++ "h" ++
    paddedInt 2 weather.humidity ++ "b" ++ paddedInt 5 weather.pressure

def read : Reader Weather := fun input => do
  let (windDirection, input) ← readInteger 3 input
  let ((), input) ← readMark "/" input
  let (windSpeed, input) ← readInteger 3 input
  let ((), input) ← readMark "g...t" input
  let (temperature, input) ← readInteger 3 input
  let ((), input) ← readMark "P" input
  let (rain, input) ← readInteger 3 input
  let ((), input) ← readMark "h" input
  let (humidity, input) ← readInteger 2 input
  let ((), input) ← readMark "b" input
  let (pressure, input) ← readInteger 5 input
  some ({ windDirection, windSpeed, temperature, rain, humidity, pressure }, input)

/-- Every number has room in its field. -/
structure Fits (weather : Weather) : Prop where
  windDirection : FitsWidth 3 weather.windDirection
  windSpeed : FitsWidth 3 weather.windSpeed
  temperature : FitsWidth 3 weather.temperature
  rain : FitsWidth 3 weather.rain
  humidity : FitsWidth 2 weather.humidity
  pressure : FitsWidth 5 weather.pressure

variable {weather : Weather}

theorem toList_text (weather : Weather) :
    weather.text.toList =
      (paddedInt 3 weather.windDirection).toList ++ ("/".toList ++
      ((paddedInt 3 weather.windSpeed).toList ++ ("g...t".toList ++
      ((paddedInt 3 weather.temperature).toList ++ ("P".toList ++
      ((paddedInt 3 weather.rain).toList ++ ("h".toList ++
      ((paddedInt 2 weather.humidity).toList ++ ("b".toList ++
      (paddedInt 5 weather.pressure).toList))))))))) := by
  simp only [text, String.toList_append, List.append_assoc]

theorem length_text (fits : weather.Fits) : weather.text.toList.length = 28 := by
  rw [toList_text]
  simp only [List.length_append, length_paddedInt fits.windDirection,
    length_paddedInt fits.windSpeed, length_paddedInt fits.temperature, length_paddedInt fits.rain,
    length_paddedInt fits.humidity, length_paddedInt fits.pressure]
  rfl

theorem read_text (fits : weather.Fits) : read weather.text.toList = some (weather, []) := by
  have last := readInteger_paddedInt fits.pressure []
  rw [List.append_nil] at last
  rw [toList_text, read]
  simp only [Option.bind_eq_bind, Option.bind_some, readMark_append,
    readInteger_paddedInt fits.windDirection, readInteger_paddedInt fits.windSpeed,
    readInteger_paddedInt fits.temperature, readInteger_paddedInt fits.rain,
    readInteger_paddedInt fits.humidity, last]

end Weather

/-- A comment stands behind a space, up to the end of the line. -/
def readComment : List Char → Option (Option String)
  | [] => some none
  | ' ' :: comment => some (some (String.ofList comment))
  | _ => none

theorem readComment_commentText (comment : Option String) :
    readComment (commentText comment).toList = some comment := by
  cases comment with
  | none => rfl
  | some comment =>
    have space : (" " ++ comment).toList = ' ' :: comment.toList := by simp
    rw [commentText, space, readComment, String.ofList_toList]

/-- All that a report says under its callsign. -/
structure Report where
  latitude : Angle
  symbolTable : Char
  longitude : Angle
  symbolCode : Char
  weather : Weather
  comment : Option String
  deriving DecidableEq, Repr

namespace Report

def text (callsign : String) (report : Report) : String :=
  callsign ++ ">APRS,TCPIP:!" ++ (report.latitude.text 2 ++ report.symbolTable.toString ++
    report.longitude.text 3 ++ report.symbolCode.toString) ++ report.weather.text ++
    "." ++ software ++ "-" ++ version ++ commentText report.comment

/-- Eight characters of latitude, nine of longitude and twenty-eight of weather, with a symbol
behind each angle. -/
def read? (callsign line : String) : Option Report := do
  let ((), input) ← readMark (callsign ++ ">APRS,TCPIP:!") line.toList
  let (latitude, input) ← readField 8 (Angle.read 2) input
  let (symbolTable, input) ← readChar input
  let (longitude, input) ← readField 9 (Angle.read 3) input
  let (symbolCode, input) ← readChar input
  let (weather, input) ← readField 28 Weather.read input
  let ((), input) ← readMark ("." ++ software ++ "-" ++ version) input
  let comment ← readComment input
  some { latitude, symbolTable, longitude, symbolCode, weather, comment }

structure Fits (report : Report) : Prop where
  latitude : report.latitude.Fits 2
  longitude : report.longitude.Fits 3
  weather : report.weather.Fits

theorem read?_text (callsign : String) {report : Report} (fits : report.Fits) :
    read? callsign (report.text callsign) = some report := by
  have latitude := Angle.readField_text fits.latitude (by decide) (by decide : 8 = 2 + 6)
  have longitude := Angle.readField_text fits.longitude (by decide) (by decide : 9 = 3 + 6)
  have weather : ∀ rest, readField 28 Weather.read (report.weather.text.toList ++ rest) =
      some (report.weather, rest) := fun rest =>
    readField_append rest (Weather.length_text fits.weather) (Weather.read_text fits.weather)
  have line : (report.text callsign).toList = (callsign ++ ">APRS,TCPIP:!").toList ++
      ((report.latitude.text 2).toList ++ (report.symbolTable ::
      ((report.longitude.text 3).toList ++ (report.symbolCode :: (report.weather.text.toList ++
      (("." ++ software ++ "-" ++ version).toList ++ (commentText report.comment).toList)))))) := by
    simp [text]
  rw [read?, line, readMark_append]
  simp only [Option.bind_eq_bind, Option.bind_some, latitude, longitude, weather, readChar,
    readMark_append, readComment_commentText]

end Report

/-- An angle as a report gives it, with one hemisphere for angles below zero and one for others. -/
def angleOf (angle : Binary64) (below above : Char) : Angle :=
  let (degrees, hundredths) := Position.degreesAndMinutes angle
  ⟨degrees, hundredths, if angle.below 0 then below else above⟩

/-- The numbers as the encoder puts them into their fields. -/
def weatherOf (reading : Reading) (dayRain : Binary32) : Weather where
  windDirection := reading.windDir.toInt64
  windSpeed := reading.windSpeed.toInt64
  temperature := reading.outTemp.toInt64
  rain := rainHundredths dayRain
  humidity := humidity reading.outHumidity
  pressure := pressure reading.barometer

def reportOf (station : Station) (reading : Reading) (dayRain : Binary32) : Report where
  latitude := angleOf station.latitude 'S' 'N'
  symbolTable := station.symbolTable
  longitude := angleOf station.longitude 'W' 'E'
  symbolCode := station.symbolCode
  weather := weatherOf reading dayRain
  comment := station.comment

theorem render_eq (station : Station) (reading : Reading) (dayRain : Binary32) :
    render station reading dayRain = (reportOf station reading dayRain).text station.callsign := rfl

theorem fitsWidth_humidity (percent : Binary32) : FitsWidth 2 (humidity percent) := by
  unfold humidity FitsWidth
  dsimp only
  split <;> omega

theorem fits_angleOf {angle : Binary64} {most : Nat} (width : Nat) (small : most < 2 ^ 53)
    (room : most + 1 < 10 ^ width)
    (within : angle.abs.atMost (Binary.round false most) = true) (below above : Char) :
    (angleOf angle below above).Fits width := by
  have upTo := Binary.upTo_abs_of_atMost (by decide) (Nat.cast_nonneg most)
    (Format.double_holds small) within
  obtain ⟨degrees, hundredths⟩ := Position.degreesAndMinutes_bounds small upTo
  exact ⟨lt_of_le_of_lt degrees room, hundredths⟩

end WeatherRelay.WeatherLine
