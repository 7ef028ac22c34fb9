import WeatherRelay.Fault
import WeatherRelay.Binary.Basic

/-! Rain totals, out of whatever keeps the rain that was recorded.

Rain is kept twice: as the recorded rows, and added up in buckets of five minutes. A total takes
full buckets as far as they go and the rows behind the last one.
-/

set_option autoImplicit false

namespace WeatherRelay

/-- The total of some buckets, in inches, and the end of the last of them. -/
structure PeriodRain where
  total : Binary32 := 0
  lastBucket : Option Instant := none
  deriving DecidableEq

/-- Where recorded rain is asked for. -/
structure RainSource (m : Type → Type) where
  /-- The buckets of a station that start at or after `since` and end at or before `upTo`. -/
  periodRain (station : String) (since upTo : Instant) : m PeriodRain
  /-- The rows of a station strictly after `after` and not before `notBefore`. -/
  incrementalRain (station : String) (after : Option Instant) (notBefore : Instant) : m Binary32

namespace RainSource

variable {m : Type → Type} [Monad m] [MonadExcept Setback m]

/-- How far behind the present rows are looked at one by one. -/
def lookbackSeconds : Int := 60 * 60

def rateWindowSeconds : Int := 10 * 60

/-- The rain from midnight to now: buckets first, then the rows after the last bucket, and of
those no more than the trailing hour. -/
def dailyRainfallBetween (source : RainSource m) (station : String) (midnight now : Instant) :
    m Binary32 := do
  let buckets ← source.periodRain station midnight now
  let lookback ← orCrash (now.shift? (-lookbackSeconds))
  let rest ← source.incrementalRain station buckets.lastBucket (Instant.later lookback midnight)
  pure (buckets.total + rest)

/-- Inches per hour, after the last ten minutes. -/
def rainRateAt (source : RainSource m) (station : String) (now : Instant) : m Binary32 := do
  let start ← orCrash (now.shift? (-rateWindowSeconds))
  let window ← source.incrementalRain station none start
  pure (window * 6)

end RainSource

end WeatherRelay
