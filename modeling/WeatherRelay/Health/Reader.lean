import WeatherRelay.Health.Record
import WeatherRelay.Json.Struct

/-! Reading health records back. -/

set_option autoImplicit false

namespace WeatherRelay

def HealthStatus.ofName? (name : String) : Option HealthStatus :=
  if name = "healthy" then some .healthy
  else if name = "unhealthy" then some .unhealthy
  else none

/-- The name of a status, or an object with that name as its only key and nothing in it. -/
def HealthStatus.ofTree? : Json.Tree → Option HealthStatus
  | .string units => (Json.decodeString? units).bind ofName?
  | .object [(key, .null)] => (Json.decodeString? key).bind ofName?
  | _ => none

namespace HealthRecord

def fieldNames : List String := ["status", "message", "error", "timestamp"]

def ofTree? (tree : Json.Tree) : Option HealthRecord := do
  let fields ← Json.fields? fieldNames tree
  some {
    status := ← fields.required? "status" HealthStatus.ofTree?
    message := ← fields.required? "message" Json.Tree.toText?
    error := ← fields.orDefault? "error" (Json.Tree.toOption? Json.Tree.toText?) none
    timestamp := ← fields.required? "timestamp" fun tree => tree.toText?.bind Instant.ofStamp? }

def ofJson? (text : String) : Option HealthRecord :=
  (Json.read? (Json.symbolsOfText text)).bind ofTree?

/-- The records in an object, by subsystem. -/
def mapOfJson? (text : String) : Option (List (String × HealthRecord)) :=
  match Json.read? (Json.symbolsOfText text) with
  | some (.object members) =>
    members.mapM fun (key, value) => do some (← Json.decodeString? key, ← ofTree? value)
  | _ => none

end HealthRecord

end WeatherRelay
