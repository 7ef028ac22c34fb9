import WeatherRelay.Json.Text
import WeatherRelay.Reading
import WeatherRelay.Time.Stamp

/-! A reading as JSON. -/

set_option autoImplicit false

namespace WeatherRelay.Reading

def numbersText (numbers : List Binary32) : String := Json.arrayText (numbers.map Json.numberText)

def numberFields (reading : Reading) : List (String × Binary32) := [
  ("out_temp", reading.outTemp),
  ("out_humidity", reading.outHumidity),
  ("wind_speed", reading.windSpeed),
  ("wind_dir", reading.windDir),
  ("barometer", reading.barometer),
  ("day_rain", reading.dayRain),
  ("rain_incremental", reading.rainIncremental),
  ("wind_chill", reading.windChill),
  ("heat_index", reading.heatIndex)]

def optionalFields (reading : Reading) : List (String × Option Binary32) := [
  ("battery_voltage", reading.batteryVoltage),
  ("in_temp", reading.inTemp),
  ("in_humidity", reading.inHumidity),
  ("wind_speed_10", reading.windSpeed10),
  ("rain_rate", reading.rainRate),
  ("storm_rain", reading.stormRain),
  ("month_rain", reading.monthRain),
  ("year_rain", reading.yearRain),
  ("solar_watts", reading.solarWatts),
  ("uv", reading.uv)]

def listFields (reading : Reading) : List (String × List Binary32) := [
  ("extra_temps", reading.extraTemps),
  ("soil_temps", reading.soilTemps),
  ("extra_humidities", reading.extraHumidities)]

/-- Every field, in the order in which a reading declares them; what is absent is null. -/
def toJson (reading : Reading) : String :=
  Json.objectText (
    [("timestamp", Json.stringText reading.timestamp.toStamp),
      ("station_name", Json.stringText reading.stationName),
      ("station_type", Json.stringText reading.stationType)] ++
    reading.numberFields.map (fun (key, value) => (key, Json.numberText value)) ++
    reading.optionalFields.map (fun (key, value) => (key, Json.optionText Json.numberText value)) ++
    reading.listFields.map (fun (key, values) => (key, numbersText values)))

end WeatherRelay.Reading
