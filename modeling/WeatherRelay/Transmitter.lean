import WeatherRelay.CurrentReadings
import WeatherRelay.Rain
import WeatherRelay.Session
import WeatherRelay.Time.Zone
import WeatherRelay.WeatherLine

/-! The report of one station: its newest reading, sent over a conversation of its own. -/

set_option autoImplicit false

namespace WeatherRelay

/-- What the clock on the wall shows. -/
structure WallClock where
  zone : Zone
  now : Instant
  deriving DecidableEq

def RainSource.dailyRainfall {m : Type → Type} [Monad m] [MonadExcept Setback m]
    (source : RainSource m) (station : String) (clock : WallClock) : m Binary32 :=
  source.dailyRainfallBetween station (clock.zone.localMidnight clock.now) clock.now

inductive Transmission where
  | sent
  | noReading
  deriving DecidableEq, Repr

structure Transmitter (m : Type → Type) where
  station : Station
  /-- Where the day's rain is computed, if it is. -/
  rain : Option (RainSource m) := none

/-- How a report ended, and the session that it used. -/
structure ReportOutcome where
  result : Except ReportError Transmission
  session : Session

namespace Transmitter

variable {m : Type → Type} [Monad m] [MonadExcept Setback m]

/-- The computed total, or the station's own where none is computed or the computation fails. -/
def dayRain (transmitter : Transmitter m) (clock : WallClock) (reading : Reading) : m Binary32 :=
  match transmitter.rain with
  | none => pure reading.dayRain
  | some source =>
    tryCatch (source.dailyRainfall transmitter.station.name clock) fun
      | .failure _ => pure reading.dayRain
      | .crash => throw .crash

def send (station : Station) (server : Server) (line : String) : Session.Conversation Transmission := do
  Session.handshake server station.login .caseSensitive
  Session.sendLine line
  pure .sent

def report (transmitter : Transmitter m) (clock : WallClock) (readings : CurrentReadings)
    (server : Server) : m ReportOutcome := do
  match readings.latest transmitter.station.name with
  | none => pure ⟨.ok .noReading, {}⟩
  | some reading =>
    let dayRain ← transmitter.dayRain clock reading
    let line := WeatherLine.render transmitter.station reading dayRain
    let (result, session) := Session.perform (send transmitter.station server line) {}
    pure ⟨result, session⟩

end Transmitter

end WeatherRelay
