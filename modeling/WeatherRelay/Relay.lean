import WeatherRelay.Configuration.Read
import WeatherRelay.Endpoint
import WeatherRelay.Health.Monitor
import WeatherRelay.Ingest
import WeatherRelay.Passcode
import WeatherRelay.Pipeline
import WeatherRelay.ReportBackend
import WeatherRelay.Transmitter

/-! The whole relay: what it is made of by its configuration, and what it does with a reading. -/

set_option autoImplicit false

namespace WeatherRelay

inductive CommandError where
  | noConfiguration (path : String)
  | io (fault : IoFault)
  | notText
  | configuration (error : ConfigurationError)
  | nothingToCheck
  | noStation
  | report (error : ReportError)
  | loginFailed

def CommandError.text : CommandError → String
  | noConfiguration path => "Configuration file " ++ Text.quoted path ++ " does not exist!"
  | io fault => fault.message
  | notText => "stream did not contain valid UTF-8"
  | configuration error => error.text
  | nothingToCheck => "No [aprs] section is configured, there is nothing to check"
  | noStation => "No station has APRS enabled"
  | report error => error.message
  | loginFailed => "APRS-IS login test failed"

def Configuration.ofFile (contents : Text.Utf8.Bytes) : Except CommandError Configuration :=
  match Text.Utf8.decode contents with
  | .error _ => .error .notText
  | .ok text => (Configuration.ofToml text).mapError .configuration

/-- What the check command works on: the settings, and at least one station. -/
structure CheckPlan where
  settings : ReportSettings
  stations : List Station

namespace CheckPlan

def ofConfiguration (configuration : Configuration) : Except CommandError CheckPlan :=
  match configuration.reporting with
  | none => .error .nothingToCheck
  | some entry => do
    let settings ← (ReportSettings.ofEntry entry).mapError .report
    let stations ← (Station.ofEntries configuration.stations).mapError .report
    if stations.isEmpty then .error .noStation else .ok ⟨settings, stations⟩

def stationLine (station : Station) : String :=
  station.name ++ " reports as " ++ station.callsign ++ " (passcode " ++
    toString station.passcode.toNat ++ ") from " ++ Position.latitudeText station.latitude ++ " " ++
    Position.longitudeText station.longitude

def perform (plan : CheckPlan) (clock : Instant) (server : Server) :
    HealthRecord × Except CommandError Unit :=
  let (record, _) :=
    HealthMonitor.check plan.stations clock (server.behind plan.settings.server)
  (record, if record.status = .healthy then .ok () else .error .loginFailed)

end CheckPlan

/-- What the backends of a relay keep. -/
structure Kept where
  store : RainStore
  reporter : Option ReportBackend

namespace Kept

/-- The part of the reporting backend, if there is one. -/
def readings? (kept : Kept) : Option CurrentReadings := kept.reporter.map ReportBackend.readings

def withReadings (readings : CurrentReadings) (kept : Kept) : Kept :=
  { kept with reporter := kept.reporter.map fun reporter => { reporter with readings } }

end Kept

/-- The relay while it runs. -/
structure Relay where
  pipeline : Pipeline Kept
  logging : Bool
  computesRain : Bool
  health : HealthRegistry

namespace Relay

def store (relay : Relay) : RainStore := relay.pipeline.state.store

def reporter (relay : Relay) : Option ReportBackend := relay.pipeline.state.reporter

def storeConsumer (clock : Instant) : Consumer Kept :=
  (Consumer.memory clock).within (fun kept => some kept.store) fun store kept => { kept with store }

def logConsumer : Consumer Kept := Consumer.log.within (fun _ => some ()) fun () kept => kept

def reportConsumer : Consumer Kept :=
  ReportBackend.consumer.within Kept.readings? Kept.withReadings

/-- The consumers in the order in which they are added. -/
def consumers (logging reporting : Bool) (clock : Instant) : List (Consumer Kept) :=
  storeConsumer clock ::
    (if logging then [logConsumer] else []) ++ (if reporting then [reportConsumer] else [])

def backends (logging reporting : Bool) : List String :=
  (consumers logging reporting .epoch).map Consumer.backend

/-- The relay that a configuration describes. -/
def ofConfiguration (configuration : Configuration) (healthFile : HealthFile) :
    Except CommandError Relay := do
  let reporter ←
    match configuration.reporting with
    | none => pure none
    | some entry =>
      ((ReportBackend.ofEntries entry configuration.stations).map some).mapError .report
  let logging := configuration.backends.log
  let store := .ofRetention (configuration.backends.retentionHours * 3600)
  pure {
    pipeline := .start configuration.queues.backendQueueSize (backends logging reporter.isSome)
      ⟨store, reporter⟩
    logging
    computesRain := configuration.reporting.any ReportingEntry.computeDayRain
    health := { file := healthFile } }

/-- Distribute readings. The result is what the backends log about them, and the relay afterwards. -/
def acceptAll (relay : Relay) (clock : Instant) (readings : List Reading) : List Event × Relay :=
  let consumers := consumers relay.logging relay.reporter.isSome clock
  let (_, pipeline) := { relay.pipeline with events := [] }.run consumers readings
  (pipeline.events, { relay with pipeline })

def accept (relay : Relay) (clock : Instant) (reading : Reading) : List Event × Relay :=
  relay.acceptAll clock [reading]

/-- Test the login and enter the record, if anything reports. -/
def checkHealth (relay : Relay) (clock : Instant) (server : Server) : Relay :=
  match relay.reporter with
  | none => relay
  | some reporter =>
    let server := server.behind reporter.settings.server
    { relay with health := (HealthMonitor.update reporter.stations clock server relay.health).2 }

/-- The transmitter of a station, with the rain as it is stored now. -/
def transmitter (relay : Relay) (station : Station) : Transmitter Attempt where
  station
  rain := if relay.computesRain then some relay.store.source else none

/-- Report the newest reading of a station, if anything reports. -/
def report (relay : Relay) (clock : WallClock) (station : Station) (server : Server) :
    Attempt ReportOutcome :=
  match relay.reporter with
  | none => .ok ⟨.ok .noReading, {}⟩
  | some reporter =>
    (relay.transmitter station).report clock reporter.readings
      (server.behind reporter.settings.server)

end Relay

end WeatherRelay
