import WeatherRelay.Health.Registry
import WeatherRelay.Session

/-! The login test: whether the server takes the login of the first station. -/

set_option autoImplicit false

namespace WeatherRelay.HealthMonitor

def subsystem : String := "aprs"

def testLogin (station : Station) (server : Server) : Session.Conversation Unit := do
  Session.handshake server station.login .caseInsensitive
  Session.close

def stationCount (stations : List Station) : String :=
  "(" ++ toString stations.length ++ " enabled station(s))"

def record (stations : List Station) (clock : Instant) (outcome : Except ReportError Unit) :
    HealthRecord :=
  match outcome with
  | .ok () =>
    ⟨.healthy, "APRS-IS login test successful " ++ stationCount stations, none, clock⟩
  | .error error =>
    ⟨.unhealthy, "APRS-IS login test failed " ++ stationCount stations, some error.message, clock⟩

/-- Test the login of the first station. Gives the record and the session that was used. -/
def check (stations : List Station) (clock : Instant) (server : Server) : HealthRecord × Session :=
  match stations with
  | [] => (⟨.unhealthy, "No APRS-enabled stations found", none, clock⟩, {})
  | station :: _ =>
    let (outcome, session) := Session.perform (testLogin station server) {}
    (record stations clock outcome, session)

/-- Check, and enter the record. Where its file cannot be written the record is entered all the
same. -/
def update (stations : List Station) (clock : Instant) (server : Server)
    (registry : HealthRegistry) : HealthRecord × HealthRegistry :=
  let (record, _) := check stations clock server
  (record, (registry.update subsystem record).2)

end WeatherRelay.HealthMonitor
