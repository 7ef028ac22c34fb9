import Std.Time
import WeatherRelay.Transmitter

/-! The clock of the host, and its time zone. -/

set_option autoImplicit false

namespace WeatherRelay.Host

def now : IO Instant := do
  let stamp ← Std.Time.Timestamp.now
  let nanos := stamp.toNanosecondsSinceUnixEpoch.val
  return (Instant.ofParts? (nanos / nanosPerSecond) (nanos % nanosPerSecond).toNat).getD .epoch

/-- The offset of a zone by its rules, in seconds. -/
def offsetAt (rules : Std.Time.TimeZone.ZoneRules) (seconds : Int) : Int :=
  let stamp := Std.Time.Timestamp.ofSecondsSinceUnixEpoch (Std.Time.Second.Offset.ofInt seconds)
  (rules.findLocalTimeTypeForTimestamp stamp).gmtOffset.second.val

/-- The present, in the zone of the host. A host without one has universal time. -/
def wallClock : IO WallClock := do
  let instant ← now
  let zone ←
    try
      let rules ← Std.Time.Database.defaultGetLocalZoneRules
      pure (Zone.ofOffsets (offsetAt rules) instant.seconds)
    catch _ => pure (Zone.fixed 0)
  return ⟨zone, instant⟩

end WeatherRelay.Host
