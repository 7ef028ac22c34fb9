import WeatherRelay.Fault
import WeatherRelay.Health.Record
import WeatherRelay.Table

/-! The latest health record of every subsystem, and the file that keeps them.

An update happens in two steps: it enters its record and prepares the text of all records, and
then it writes that text.
-/

set_option autoImplicit false

namespace WeatherRelay

/-- Where records are kept beyond the memory. -/
inductive HealthFile where
  | none
  /-- A file, with its text once it was written. -/
  | file (text : Option String)
  /-- A file that cannot be written. -/
  | broken (fault : IoFault)
  deriving DecidableEq, Repr

structure HealthRegistry where
  records : Table String HealthRecord := .empty
  file : HealthFile := .none
  deriving DecidableEq

namespace HealthRegistry

def get (registry : HealthRegistry) (subsystem : String) : Option HealthRecord :=
  registry.records.find? subsystem

def snapshot (registry : HealthRegistry) : List (String × HealthRecord) := registry.records.entries

def toPrettyJson (registry : HealthRegistry) : String :=
  Json.prettyObjectText "" (registry.snapshot.map fun (subsystem, record) =>
    (subsystem, record.toPrettyJson "  "))

/-- The first step of an update. -/
def enter (registry : HealthRegistry) (subsystem : String) (record : HealthRecord) :
    HealthRegistry :=
  { registry with records := registry.records.insert subsystem record }

/-- The second step of an update. -/
def write (registry : HealthRegistry) (text : String) : Attempt Unit × HealthRegistry :=
  match registry.file with
  | .none => (.ok (), registry)
  | .file _ => (.ok (), { registry with file := .file (some text) })
  | .broken fault => (.error (.failure (.io fault)), registry)

/-- Enter a record and write all of them. The record stays where the writing fails. -/
def update (registry : HealthRegistry) (subsystem : String) (record : HealthRecord) :
    Attempt Unit × HealthRegistry :=
  let registry := registry.enter subsystem record
  registry.write registry.toPrettyJson

/-- Whether the latest record of a subsystem says healthy and is no older than `maxAge` seconds. -/
def isHealthy (registry : HealthRegistry) (clock : Instant) (subsystem : String) (maxAge : Int) :
    Bool :=
  match registry.get subsystem with
  | none => false
  | some record =>
    record.status = .healthy && clock.nanosSince record.timestamp ≤ maxAge * nanosPerSecond

end HealthRegistry

end WeatherRelay
