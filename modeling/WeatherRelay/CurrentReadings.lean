import WeatherRelay.Reading
import WeatherRelay.Table

/-! The newest reading of every station that reports. -/

set_option autoImplicit false

namespace WeatherRelay

/-- A slot for every station, empty until a reading comes in. -/
structure CurrentReadings where
  slots : Table String (Option Reading)
  deriving DecidableEq

namespace CurrentReadings

def ofStations (names : List String) : CurrentReadings :=
  ⟨names.foldl (fun slots name => slots.insert name none) .empty⟩

/-- Keep a reading, if its station has a slot. The flag tells whether it has. -/
def store (readings : CurrentReadings) (reading : Reading) : Bool × CurrentReadings :=
  match readings.slots.find? reading.stationName with
  | none => (false, readings)
  | some _ => (true, ⟨readings.slots.insert reading.stationName (some reading)⟩)

def storeAll (readings : CurrentReadings) : List Reading → List Bool × CurrentReadings
  | [] => ([], readings)
  | reading :: rest =>
    let (stored, readings) := readings.store reading
    let (later, readings) := readings.storeAll rest
    (stored :: later, readings)

def latest (readings : CurrentReadings) (station : String) : Option Reading :=
  (readings.slots.find? station).join

def stations (readings : CurrentReadings) : List String := readings.slots.keys

end CurrentReadings

end WeatherRelay
