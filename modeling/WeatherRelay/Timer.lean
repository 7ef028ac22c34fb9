import WeatherRelay.Fault
import WeatherRelay.Powers

/-! Timers that fire once in every period. -/

set_option autoImplicit false

namespace WeatherRelay

/-- Seconds. The first firing is at `first`. -/
structure Timer where
  first : Nat
  period : Nat
  deriving DecidableEq, Repr

namespace Timer

/-- Times of the steady clock are below this many seconds. -/
def clockLimit : Nat := twoTo 63

/-- A timer that fires first after one period. It crashes on a period of zero, and where its
first firing is beyond the clock. -/
def start (now period : Nat) : Attempt Timer :=
  if clockLimit ≤ now + period then .error .crash
  else if period = 0 then .error .crash
  else .ok ⟨now + period, period⟩

end Timer

end WeatherRelay
