import WeatherRelay.Decimal.Layout
import WeatherRelay.RainStore
import WeatherRelay.Time.Stamp

/-! What backends do with the readings in their queues. -/

set_option autoImplicit false

namespace WeatherRelay

inductive Level where
  | info
  | warn
  | error
  deriving DecidableEq, Repr

def Level.name : Level → String
  | info => "INFO"
  | warn => "WARN"
  | error => "ERROR"

/-- A line of the log. -/
structure Event where
  level : Level
  message : String
  fields : List (String × String)
  deriving DecidableEq, Repr

/-- How a backend with a state of type `σ` handles one reading. -/
structure Consumer (σ : Type) where
  backend : String
  handle : Reading → σ → Attempt (List Event) × σ

namespace Consumer

variable {σ : Type}

def failureEvent (backend : String) (reading : Reading) (cause : Failure) : Event :=
  ⟨.error, "Error handling reading: " ++ cause.message,
    [("backend", backend), ("station", reading.stationName)]⟩

/-- Handle one reading. A failure is logged and is no reason to stop; a crash is one. -/
def consume (consumer : Consumer σ) (reading : Reading) (state : σ) :
    Option (List Event) × σ :=
  match consumer.handle reading state with
  | (.ok events, state) => (some events, state)
  | (.error (.failure cause), state) => (some [failureEvent consumer.backend reading cause], state)
  | (.error .crash, state) => (none, state)

/-- Handle readings in order. The flag tells whether the consumer is still there afterwards. -/
def drain (consumer : Consumer σ) : List Reading → σ → Bool × List Event × σ
  | [], state => (true, [], state)
  | reading :: rest, state =>
    match consumer.consume reading state with
    | (none, state) => (false, [], state)
    | (some events, state) =>
      let (alive, later, state) := consumer.drain rest state
      (alive, events ++ later, state)

/-- A consumer that works on a part of a larger state, if that is there. -/
def within {τ : Type} (consumer : Consumer σ) (part? : τ → Option σ) (put : σ → τ → τ) :
    Consumer τ where
  backend := consumer.backend
  handle reading whole :=
    match part? whole with
    | none => (.ok [], whole)
    | some state =>
      let (outcome, state) := consumer.handle reading state
      (outcome, put state whole)

def memory (clock : Instant) : Consumer RainStore where
  backend := "memory"
  handle reading store :=
    let (outcome, store) := store.record clock reading
    (outcome.map fun () => [], store)

def logLine (reading : Reading) : String :=
  "temp " ++ reading.outTemp.fixedText 1 ++ "F hum " ++ reading.outHumidity.fixedText 0 ++
    "% wind " ++ reading.windSpeed.fixedText 1 ++ "mph @ " ++ reading.windDir.fixedText 0 ++
    " baro " ++ reading.barometer.fixedText 2 ++ "inHg day rain " ++ reading.dayRain.fixedText 2 ++
    "in"

def log : Consumer Unit where
  backend := "log"
  handle reading state :=
    (.ok [⟨.info, logLine reading,
      [("station", reading.stationName), ("at", reading.timestamp.toReadable)]⟩], state)

end Consumer

end WeatherRelay
