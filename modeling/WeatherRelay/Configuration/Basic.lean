import WeatherRelay.Configuration.SocketAddress
import WeatherRelay.Station

/-! What can be configured. -/

set_option autoImplicit false

namespace WeatherRelay

/-- How reports are made. Times are in seconds. -/
structure ReportingEntry where
  /-- Host and port. -/
  server : String
  initialDelay : Nat := 15
  reportInterval : Nat := 300
  healthInterval : Nat := 90
  transmitTimeout : Nat := 3
  healthTimeout : Nat := 10
  computeDayRain : Bool := false
  deriving DecidableEq, Repr

structure QueueEntry where
  queueSize : Nat := 20
  backendQueueSize : Nat := 10
  deriving DecidableEq, Repr

structure BackendsEntry where
  log : Bool := false
  /-- Hours for which rain is retained. -/
  retentionHours : Nat := 48
  deriving DecidableEq, Repr

structure Configuration where
  /-- Where log files and the health file go. -/
  runDirectory : String
  listen : Option SocketAddress := none
  queues : QueueEntry := {}
  backends : BackendsEntry := {}
  reporting : Option ReportingEntry := none
  stations : List StationEntry := []
  deriving DecidableEq

inductive ConfigurationError where
  /-- The document is not well-formed. -/
  | malformed
  /-- A scalar cannot be turned into what a key wants. -/
  | wrongType (unexpected expected : String) (key : Option String)
  /-- The structure is not what is wanted, in words. -/
  | message (text : String)
  deriving DecidableEq, Repr

namespace ConfigurationError

def text : ConfigurationError → String
  | malformed => "the document is not well-formed"
  | wrongType unexpected expected key =>
    let place :=
      match key with
      | none => ""
      | some key => " for key `" ++ key ++ "`"
    "invalid type: " ++ unexpected ++ ", expected " ++ expected ++ place
  | message text => text

/-- The error as seen from outside of a key. -/
def underKey (key : String) : ConfigurationError → ConfigurationError
  | wrongType unexpected expected path =>
    let path := path.getD ""
    let joint := if path = "" || path.startsWith "[" then "" else "."
    wrongType unexpected expected (some (key ++ joint ++ path))
  | error => error

/-- The error as seen from outside of an item of a list. -/
def underIndex (index : Nat) : ConfigurationError → ConfigurationError
  | wrongType unexpected expected path =>
    wrongType unexpected expected (some ("[" ++ toString index ++ "]" ++ path.getD ""))
  | error => error

end ConfigurationError

end WeatherRelay
