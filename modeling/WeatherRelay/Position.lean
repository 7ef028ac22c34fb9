import WeatherRelay.Base91
import WeatherRelay.Binary.Integral
import WeatherRelay.Decimal.Layout

/-! Positions on the globe: as degrees and minutes in text, and as four base-91 digits. -/

set_option autoImplicit false

namespace WeatherRelay.Position

/-- Whole degrees of an angle without its sign, and hundredths of a minute. Minutes that round up
to sixty are carried into the degrees, which are kept to 32 bits. -/
def degreesAndMinutes (angle : Binary64) : Nat × Nat :=
  let angle := angle.abs
  let degrees := angle.floor.toUInt32
  let hundredths := ((angle - angle.floor) * 60 * 100).roundAway.toUInt32
  if 6000 ≤ hundredths then ((degrees + 1) % twoTo 32, hundredths - 6000)
  else (degrees, hundredths)

/-- Degrees in at least `width` digits, minutes with two decimals, and the hemisphere. -/
def angleText (width : Nat) (angle : Binary64) (hemisphere : Char) : String :=
  let (degrees, hundredths) := degreesAndMinutes angle
  zeroPad width (toString degrees) ++ zeroPad 2 (toString (hundredths / 100)) ++ "." ++
    zeroPad 2 (toString (hundredths % 100)) ++ hemisphere.toString

/-- Latitude as `DDMM.mmN` or `DDMM.mmS`. -/
def latitudeText (latitude : Binary64) : String :=
  angleText 2 latitude (if latitude.below 0 then 'S' else 'N')

/-- Longitude as `DDDMM.mmE` or `DDDMM.mmW`. -/
def longitudeText (longitude : Binary64) : String :=
  angleText 3 longitude (if longitude.below 0 then 'W' else 'E')

/-- The number a latitude is compressed to: zero at the north pole. -/
def scaledLatitude (latitude : Binary64) : Binary64 := 380926 * (90 - latitude)

/-- The number a longitude is compressed to: zero at the antimeridian. -/
def scaledLongitude (longitude : Binary64) : Binary64 := 190463 * (180 + longitude)

def compressedLatitude (latitude : Binary64) : List UInt8 :=
  Base91.encodePosition (UInt32.ofNat (scaledLatitude latitude).toUInt32)

def compressedLongitude (longitude : Binary64) : List UInt8 :=
  Base91.encodePosition (UInt32.ofNat (scaledLongitude longitude).toUInt32)

end WeatherRelay.Position
