import WeatherRelay.Rain
import WeatherRelay.Reading
import WeatherRelay.Table

/-! The rain of every station, in memory, for as long as it is to be retained. -/

set_option autoImplicit false

namespace WeatherRelay

abbrev bucketSeconds : Int := 5 * 60

/-- Rain that fell until a time stamp. -/
structure RainRow where
  timestamp : Instant
  inches : Binary32
  deriving DecidableEq

structure StationRain where
  /-- In the order of arrival. -/
  rows : List RainRow := []
  /-- By the end of a bucket, the rain in the five minutes up to it. -/
  buckets : Table Instant Binary32 := .empty
  /-- The newest time stamp that was seen, never later than the clock. -/
  newest : Option Instant := none
  deriving DecidableEq

structure RainStore where
  /-- Nanoseconds for which rain is retained. -/
  retention : Int
  stations : Table String StationRain := .empty
  deriving DecidableEq

/-- The end of the bucket that holds a time stamp. A bucket holds its end and not its start. -/
def bucketEnd? (timestamp : Instant) : Option Instant :=
  let start := timestamp.seconds / bucketSeconds * bucketSeconds
  let onBoundary := timestamp.seconds % bucketSeconds = 0 && timestamp.nanos = 0
  Instant.ofParts? (if onBoundary then start else start + bucketSeconds) 0

namespace StationRain

/-- Drop old rows from the front, and old buckets. A late row behind a newer one stays until it
comes to the front. -/
def prune (rain : StationRain) (oldest : Instant) : StationRain :=
  { rain with
    rows := rain.rows.dropWhile fun row => row.timestamp < oldest
    buckets := ⟨rain.buckets.entries.dropWhile fun entry => entry.1 < oldest⟩ }

/-- Add a row to the rows and to its bucket. -/
def add (rain : StationRain) (row : RainRow) (bucket : Instant) : StationRain :=
  { rain with
    rows := rain.rows ++ [row]
    buckets := rain.buckets.insert bucket ((rain.buckets.find? bucket).getD 0 + row.inches) }

def advances (rain : StationRain) (seen : Instant) : Bool :=
  match rain.newest with
  | none => true
  | some newest => newest < seen

/-- Note the time of a row, and drop what is older than the retention before it. It crashes, with
the time noted and nothing dropped, where that would be outside the calendar. -/
def expire (rain : StationRain) (retention : Int) (seen : Instant) : Attempt Unit × StationRain :=
  if rain.advances seen then
    let noted := { rain with newest := some seen }
    match seen.shiftNanos? (-retention) with
    | some oldest => (.ok (), noted.prune oldest)
    | none => (.error .crash, noted)
  else (.ok (), rain)

/-- The buckets that start at or after `since` and end at or before `upTo`. -/
def periodRain (rain : StationRain) (since upTo : Instant) : Attempt PeriodRain := do
  let firstEnd ← orCrash (since.shift? bucketSeconds)
  let within := rain.buckets.entries.filter fun (ending, _) => firstEnd ≤ ending && ending ≤ upTo
  pure (within.foldl
    (fun period (ending, inches) => ⟨period.total + inches, some ending⟩) {})

def incrementalRain (rain : StationRain) (after : Option Instant) (notBefore : Instant) :
    Binary32 :=
  let isAfter (row : RainRow) : Bool :=
    match after with
    | none => true
    | some start => start < row.timestamp
  .sum <| (rain.rows.filter fun row => isAfter row && notBefore ≤ row.timestamp).map RainRow.inches

end StationRain

namespace RainStore

def ofRetention (seconds : Int) : RainStore := { retention := seconds * nanosPerSecond }

def station (store : RainStore) (name : String) : StationRain :=
  (store.stations.find? name).getD {}

/-- Record the rain of a reading, with the clock that its time stamp is held against. -/
def record (store : RainStore) (clock : Instant) (reading : Reading) : Attempt Unit × RainStore :=
  match bucketEnd? reading.timestamp with
  | none => (.error (.failure (.timestampOutOfRange reading.timestamp)), store)
  | some bucket =>
    let rain := (store.station reading.stationName).add
      ⟨reading.timestamp, reading.rainIncremental⟩ bucket
    let (outcome, rain) :=
      rain.expire store.retention (Instant.earlier reading.timestamp clock)
    (outcome, { store with stations := store.stations.insert reading.stationName rain })

def length (store : RainStore) (name : String) : Nat := (store.station name).rows.length

def periodRain (store : RainStore) (name : String) (since upTo : Instant) : Attempt PeriodRain :=
  match store.stations.find? name with
  | none => .ok {}
  | some rain => rain.periodRain since upTo

def incrementalRain (store : RainStore) (name : String) (after : Option Instant)
    (notBefore : Instant) : Attempt Binary32 :=
  match store.stations.find? name with
  | none => .ok 0
  | some rain => .ok (rain.incrementalRain after notBefore)

def source (store : RainStore) : RainSource Attempt := ⟨store.periodRain, store.incrementalRain⟩

end RainStore

end WeatherRelay
