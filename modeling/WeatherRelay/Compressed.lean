import WeatherRelay.Base91
import WeatherRelay.Binary.Integral
import WeatherRelay.Binary.Logarithm

/-! Compressed altitude, course and speed: one or two base-91 digits each, on logarithmic scales
for altitude and speed.
-/

set_option autoImplicit false

namespace WeatherRelay.Compressed

/-- The nearest integer, by adding a half in the format itself and cutting. -/
def roundHalfAway (x : Binary64) : Binary64 :=
  if (0 : Binary64).below x then (x + 0.5).floor else (x - 0.5).ceil

/-- Feet on a scale where each step is a factor of 1.002. -/
def altitude (feet : Binary64) : List UInt8 :=
  let steps := UInt32.ofNat (roundHalfAway ((feet.ln / (1.002 : Binary64).ln).max 0)).toUInt32
  [Base91.digit (steps / 91), Base91.digit (steps % 91)]

/-- Quarter degrees; 360 is north, and larger courses wrap around. -/
def course (degrees : UInt16) : UInt8 :=
  let degrees := if 360 < degrees then degrees % 360 else degrees
  UInt8.ofNat (roundHalfAway (Binary.round false degrees.toNat / 4)).toUInt8 + Base91.offset

/-- Knots on a scale where each step is a factor of 1.08; one knot or less is digit zero. -/
def speed (knots : Binary64) : UInt8 :=
  if knots.atMost 1 then Base91.offset
  else
    let steps := (roundHalfAway (knots.ln / (1.08 : Binary64).ln)).toUInt8
    UInt8.ofNat (min (steps + 34) 255)

def knotsOfMph (mph : Binary64) : Binary64 := mph * 0.8689758

end WeatherRelay.Compressed
