import WeatherRelay.Binary.Basic

/-! Integer-valued roundings and bounded integer parts of binary numbers.

A rounding to an integer keeps the sign of a zero result. An integer part is cut towards zero and
held within its bounds; a NaN counts as zero.
-/

set_option autoImplicit false

namespace WeatherRelay.Binary

variable {format : Format}

private def mapFinite (f : Rat → Int) : Binary format → Binary format
  | .finite negative rank =>
    let magnitude := format.magnitude rank
    round negative (f (if negative then -magnitude else magnitude))
  | other => other

def floor (x : Binary format) : Binary format := mapFinite Rat.floor x

def ceil (x : Binary format) : Binary format := mapFinite (fun value => -(-value).floor) x

/-- The nearest integer; a half goes away from zero. -/
def roundAway (x : Binary format) : Binary format :=
  mapFinite (fun value =>
    if value < 0 then -(-value + 1 / 2).floor else (value + 1 / 2).floor) x

def integerPart (value : Rat) : Int :=
  if value < 0 then -(-value).floor else value.floor

/-- The integer part, held between `least` and `greatest`. -/
def truncate (least greatest : Int) : Binary format → Int
  | .nan => 0
  | .infinity negative => if negative then least else greatest
  | .finite negative rank =>
    let magnitude := format.magnitude rank
    let whole := integerPart (if negative then -magnitude else magnitude)
    Max.max least (Min.min whole greatest)

def toInt64 (x : Binary format) : Int := x.truncate (-(twoTo 63 : Int)) (twoTo 63 - 1 : Nat)

def toUInt64 (x : Binary format) : Nat := (x.truncate 0 (twoTo 64 - 1 : Nat)).toNat

def toUInt32 (x : Binary format) : Nat := (x.truncate 0 (twoTo 32 - 1 : Nat)).toNat

def toUInt8 (x : Binary format) : Nat := (x.truncate 0 (twoTo 8 - 1 : Nat)).toNat

end WeatherRelay.Binary
