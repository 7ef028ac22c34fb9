import WeatherRelay.Json.Text
import WeatherRelay.Time.Stamp

/-! What is known about the health of a subsystem. -/

set_option autoImplicit false

namespace WeatherRelay

inductive HealthStatus where
  | healthy
  | unhealthy
  deriving DecidableEq, Repr

def HealthStatus.name : HealthStatus → String
  | healthy => "healthy"
  | unhealthy => "unhealthy"

structure HealthRecord where
  status : HealthStatus
  message : String
  error : Option String
  timestamp : Instant
  deriving DecidableEq

namespace HealthRecord

/-- The fields as JSON; an error is written only if there is one. -/
def jsonFields (record : HealthRecord) : List (String × String) :=
  [("status", Json.stringText record.status.name), ("message", Json.stringText record.message)] ++
    record.error.toList.map (fun error => ("error", Json.stringText error)) ++
    [("timestamp", Json.stringText record.timestamp.toStamp)]

def toPrettyJson (record : HealthRecord) (indent : String) : String :=
  Json.prettyObjectText indent record.jsonFields

end HealthRecord

end WeatherRelay
