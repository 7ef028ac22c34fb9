import WeatherRelay.Configuration.Path
import WeatherRelay.Configuration.Shape
import WeatherRelay.Toml.Document

/-! Reading a configuration out of its document. -/

set_option autoImplicit false

namespace WeatherRelay.Configuration

def directoriesShape : Shape String where
  name := "Directories"
  standard := ""
  fields := [(Field.of "run" toText fun value _ => value).require]

def ingestShape : Shape (Option SocketAddress) where
  name := "Ingest"
  standard := none
  fields := [.of "listen" (toOption toAddress) fun value _ => value]

def queuesShape : Shape QueueEntry where
  name := "Distributor"
  standard := {}
  fields := [
    .of "queue_size" toNatural fun queueSize entry => { entry with queueSize },
    .of "backend_queue_size" toNatural fun backendQueueSize entry =>
      { entry with backendQueueSize }]

/-- Hours are cut to thirty-two bits. -/
def memoryShape : Shape Nat where
  name := "MemoryBackend"
  standard := 48
  fields := [.of "retention_hours" toNatural fun hours _ => hours % twoTo 32]

def backendsShape : Shape BackendsEntry where
  name := "Backends"
  standard := {}
  fields := [
    .of "log" toBool fun log entry => { entry with log },
    .of "memory" memoryShape.read fun retentionHours entry => { entry with retentionHours }]

def reportingShape : Shape ReportingEntry where
  name := "Aprs"
  standard := { server := "" }
  fields := [
    (Field.of "server" toText fun server entry => { entry with server }).require,
    .of "initial_delay_secs" toNatural fun initialDelay entry => { entry with initialDelay },
    .of "report_interval_secs" toNatural fun reportInterval entry => { entry with reportInterval },
    .of "health_interval_secs" toNatural fun healthInterval entry => { entry with healthInterval },
    .of "transmit_timeout_secs" toNatural fun transmitTimeout entry =>
      { entry with transmitTimeout },
    .of "health_timeout_secs" toNatural fun healthTimeout entry => { entry with healthTimeout },
    .of "compute_day_rain" toBool fun computeDayRain entry => { entry with computeDayRain }]

def stationReportShape : Shape ReportEntry where
  name := "StationAprs"
  standard := {}
  fields := [
    .of "enabled" toBool fun enabled entry => { entry with enabled },
    .of "callsign" toText fun callsign entry => { entry with callsign },
    .of "passcode" (toOption toText) fun passcode entry => { entry with passcode },
    .of "latitude" toFloat fun latitude entry => { entry with latitude },
    .of "longitude" toFloat fun longitude entry => { entry with longitude },
    .of "symbol_table" toText fun symbolTable entry => { entry with symbolTable },
    .of "symbol_code" toText fun symbolCode entry => { entry with symbolCode },
    .of "comment" (toOption toText) fun comment entry => { entry with comment }]

def stationShape : Shape StationEntry where
  name := "Station"
  standard := { name := "" }
  fields := [
    (Field.of "name" toText fun name entry => { entry with name }).require,
    .of "aprs" (toOption stationReportShape.read) fun report entry => { entry with report }]

def documentShape : Shape Configuration where
  name := "Config"
  standard := { runDirectory := "" }
  fields := [
    (Field.of "directory" directoriesShape.read fun runDirectory config =>
      { config with runDirectory }).require,
    .of "ingest" ingestShape.read fun listen config => { config with listen },
    .of "distributor" queuesShape.read fun queues config => { config with queues },
    .of "backends" backendsShape.read fun backends config => { config with backends },
    .of "aprs" (toOption reportingShape.read) fun reporting config => { config with reporting },
    .of "stations" (readList stationShape.read) fun stations config => { config with stations }]

def ofToml (text : String) : Conversion Configuration :=
  match Toml.read? text with
  | none => .error .malformed
  | some entries => documentShape.readEntries (placeAll entries)

end WeatherRelay.Configuration
