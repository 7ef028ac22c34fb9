import WeatherRelay.Binary.Logarithm

/-! Wind chill and heat index. Zero stands for "not applicable". -/

set_option autoImplicit false

namespace WeatherRelay.Comfort

/-- How cold the wind makes it feel; not applicable above 50 °F or below 3 mph. -/
def windChill (temperature wind : Binary32) : Binary32 :=
  if (50 : Binary32).below temperature || wind.below 3 then 0
  else
    let t : Binary64 := temperature.convert
    let w : Binary64 := Binary.pow wind.convert 0.16
    (35.74 + 0.6215 * t - 35.75 * w + 0.4275 * t * w).convert

/-- How hot the humidity makes it feel; not applicable below 80 °F. -/
def heatIndex (temperature humidity : Binary32) : Binary32 :=
  if temperature.below 80 then 0
  else
    let t : Binary64 := temperature.convert
    let h : Binary64 := humidity.convert
    (-42.379 + 2.04901523 * t + 10.14333127 * h + -0.22475541 * t * h + -0.00683783 * t * t
      + -0.05481717 * h * h + 0.00122874 * t * t * h + 0.00085282 * t * h * h
      + -0.00000199 * t * t * h * h).convert

end WeatherRelay.Comfort
