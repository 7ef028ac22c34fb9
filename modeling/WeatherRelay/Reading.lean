import WeatherRelay.Comfort
import WeatherRelay.Time.Instant

/-! Readings: one observation of one station. -/

set_option autoImplicit false

namespace WeatherRelay

structure Reading where
  timestamp : Instant
  stationName : String
  stationType : String := ""
  /-- Degrees Fahrenheit. -/
  outTemp : Binary32 := 0
  /-- Percent. -/
  outHumidity : Binary32 := 0
  /-- Miles per hour. -/
  windSpeed : Binary32 := 0
  /-- Degrees. -/
  windDir : Binary32 := 0
  /-- Inches of mercury. -/
  barometer : Binary32 := 0
  /-- Inches since local midnight, as the station counts them. -/
  dayRain : Binary32 := 0
  /-- Inches since the reading before. -/
  rainIncremental : Binary32 := 0
  /-- Zero where not applicable. -/
  windChill : Binary32 := 0
  /-- Zero where not applicable. -/
  heatIndex : Binary32 := 0
  batteryVoltage : Option Binary32 := none
  inTemp : Option Binary32 := none
  inHumidity : Option Binary32 := none
  windSpeed10 : Option Binary32 := none
  rainRate : Option Binary32 := none
  stormRain : Option Binary32 := none
  monthRain : Option Binary32 := none
  yearRain : Option Binary32 := none
  solarWatts : Option Binary32 := none
  uv : Option Binary32 := none
  extraTemps : List Binary32 := []
  soilTemps : List Binary32 := []
  extraHumidities : List Binary32 := []
  deriving DecidableEq

namespace Reading

/-- The wind chill, computed where the station left it at zero. -/
def fillWindChill (reading : Reading) : Reading :=
  if reading.windChill.same 0 then
    { reading with windChill := Comfort.windChill reading.outTemp reading.windSpeed }
  else reading

/-- The heat index, computed where the station left it at zero. -/
def fillHeatIndex (reading : Reading) : Reading :=
  if reading.heatIndex.same 0 then
    { reading with heatIndex := Comfort.heatIndex reading.outTemp reading.outHumidity }
  else reading

def withDerivedMetrics (reading : Reading) : Reading := reading.fillWindChill.fillHeatIndex

end Reading

end WeatherRelay
