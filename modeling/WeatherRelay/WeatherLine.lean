import WeatherRelay.Position
import WeatherRelay.Reading
import WeatherRelay.Station

/-! The line that reports a position and the weather there. -/

set_option autoImplicit false

namespace WeatherRelay.WeatherLine

/-- Tenths of a millibar in an inch of mercury. -/
def tenthMillibars : Binary64 := 33.8638866666667 * 10

/-- Percent in two digits: full humidity is zero, and nothing is below it. -/
def humidity (percent : Binary32) : Int :=
  let whole := percent.toInt64
  if 100 ≤ whole then 0 else max whole 0

def rainHundredths (inches : Binary32) : Int := ((inches.convert : Binary64) * 100).toInt64

def pressure (barometer : Binary32) : Int :=
  ((barometer.convert : Binary64) * tenthMillibars).toInt64

/-- Wind, temperature, rain, humidity and pressure. -/
def weatherBlock (reading : Reading) (dayRain : Binary32) : String :=
  paddedInt 3 reading.windDir.toInt64 ++ "/" ++ paddedInt 3 reading.windSpeed.toInt64 ++
    "g...t" ++ paddedInt 3 reading.outTemp.toInt64 ++ "P" ++ paddedInt 3 (rainHundredths dayRain) ++
    "h" ++ paddedInt 2 (humidity reading.outHumidity) ++ "b" ++ paddedInt 5 (pressure reading.barometer)

def positionBlock (station : Station) : String :=
  Position.latitudeText station.latitude ++ station.symbolTable.toString ++
    Position.longitudeText station.longitude ++ station.symbolCode.toString

def commentText : Option String → String
  | none => ""
  | some comment => " " ++ comment

/-- The report of a station. The day's rain is given apart from the reading, so that a computed
total can stand in for the station's own. -/
def render (station : Station) (reading : Reading) (dayRain : Binary32) : String :=
  station.callsign ++ ">APRS,TCPIP:!" ++ positionBlock station ++ weatherBlock reading dayRain ++
    "." ++ software ++ "-" ++ version ++ commentText station.comment

end WeatherRelay.WeatherLine
