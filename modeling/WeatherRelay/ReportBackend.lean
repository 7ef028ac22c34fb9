import WeatherRelay.Configuration.Basic
import WeatherRelay.Consumer
import WeatherRelay.CurrentReadings
import WeatherRelay.Timer

/-! The backend that reports: it keeps the newest reading of every station, and has a transmitter
for each of them and a health monitor.
-/

set_option autoImplicit false

namespace WeatherRelay

/-- Where and how often is reported. Times are in seconds. -/
structure ReportSettings where
  server : String
  initialDelay : Nat
  reportInterval : Nat
  healthInterval : Nat
  transmitTimeout : Nat
  healthTimeout : Nat
  deriving DecidableEq, Repr

namespace ReportSettings

def ofEntry (entry : ReportingEntry) : Except ReportError ReportSettings :=
  let server := Text.trim entry.server
  if server = "" then .error (.configuration .serverRequired)
  else .ok {
    server
    initialDelay := entry.initialDelay
    reportInterval := entry.reportInterval
    healthInterval := entry.healthInterval
    transmitTimeout := entry.transmitTimeout
    healthTimeout := entry.healthTimeout }

/-- The timer of a transmitter, started after its first report. -/
def reportTimer (settings : ReportSettings) (now : Nat) : Attempt Timer :=
  Timer.start now settings.reportInterval

/-- The timer of the health monitor, started after its first check. -/
def healthTimer (settings : ReportSettings) (now : Nat) : Attempt Timer :=
  Timer.start now settings.healthInterval

end ReportSettings

structure ReportBackend where
  settings : ReportSettings
  stations : List Station
  readings : CurrentReadings
  running : Bool := false
  deriving DecidableEq

namespace ReportBackend

def name : String := "aprs"

/-- A backend with a slot for every station. -/
def ofStations (settings : ReportSettings) (stations : List Station) :
    Except ReportError ReportBackend :=
  if stations.isEmpty then .error (.configuration .stationsRequired)
  else .ok { settings, stations, readings := .ofStations (stations.map Station.name) }

def ofEntries (entry : ReportingEntry) (stations : List StationEntry) :
    Except ReportError ReportBackend := do
  ofStations (← ReportSettings.ofEntry entry) (← Station.ofEntries stations)

/-- A backend starts once. -/
def start (backend : ReportBackend) : Attempt ReportBackend :=
  if backend.running then .error (.failure .alreadyRunning)
  else .ok { backend with running := true }

/-- Readings go into the slots of their stations; one without a slot is no failure. -/
def consumer : Consumer CurrentReadings where
  backend := name
  handle reading readings := (.ok [], (readings.store reading).2)

end ReportBackend

end WeatherRelay
