import WeatherRelay.Json.Struct
import WeatherRelay.ReadingText

/-! Readings as they come in: one JSON value in a datagram. -/

set_option autoImplicit false

namespace WeatherRelay

namespace Reading

/-- The names of all fields, in the order in which a reading declares them. -/
def fieldNames : List String := [
  "timestamp", "station_name", "station_type", "out_temp", "out_humidity", "wind_speed",
  "wind_dir", "barometer", "day_rain", "rain_incremental", "wind_chill", "heat_index",
  "battery_voltage", "in_temp", "in_humidity", "wind_speed_10", "rain_rate", "storm_rain",
  "month_rain", "year_rain", "solar_watts", "uv", "extra_temps", "soil_temps",
  "extra_humidities"]

/-- A reading from its JSON. Time stamp and station are required. -/
def ofTree? (tree : Json.Tree) : Option Reading := do
  let fields ← Json.fields? fieldNames tree
  let number (name : String) : Option Binary32 := fields.orDefault? name Json.Tree.toBinary32? 0
  let optional (name : String) : Option (Option Binary32) :=
    fields.orDefault? name (Json.Tree.toOption? Json.Tree.toBinary32?) none
  let list (name : String) : Option (List Binary32) :=
    fields.orDefault? name (Json.Tree.toList? Json.Tree.toBinary32?) []
  some {
    timestamp := ← fields.required? "timestamp" fun tree => tree.toText?.bind Instant.ofStamp?
    stationName := ← fields.required? "station_name" Json.Tree.toText?
    stationType := ← fields.orDefault? "station_type" Json.Tree.toText? ""
    outTemp := ← number "out_temp"
    outHumidity := ← number "out_humidity"
    windSpeed := ← number "wind_speed"
    windDir := ← number "wind_dir"
    barometer := ← number "barometer"
    dayRain := ← number "day_rain"
    rainIncremental := ← number "rain_incremental"
    windChill := ← number "wind_chill"
    heatIndex := ← number "heat_index"
    batteryVoltage := ← optional "battery_voltage"
    inTemp := ← optional "in_temp"
    inHumidity := ← optional "in_humidity"
    windSpeed10 := ← optional "wind_speed_10"
    rainRate := ← optional "rain_rate"
    stormRain := ← optional "storm_rain"
    monthRain := ← optional "month_rain"
    yearRain := ← optional "year_rain"
    solarWatts := ← optional "solar_watts"
    uv := ← optional "uv"
    extraTemps := ← list "extra_temps"
    soilTemps := ← list "soil_temps"
    extraHumidities := ← list "extra_humidities" }

end Reading

namespace Ingest

open Text.Utf8 (Bytes)

/-- The reading in a datagram, with its derived metrics; none where the datagram is malformed. -/
def parse? (datagram : Bytes) : Option Reading :=
  ((Json.read? (Json.symbolsOfBytes datagram)).bind Reading.ofTree?).map Reading.withDerivedMetrics

/-- The readings in datagrams, in the order of arrival. What is malformed is dropped. -/
def readings (datagrams : List Bytes) : List Reading := datagrams.filterMap parse?

end Ingest

end WeatherRelay
