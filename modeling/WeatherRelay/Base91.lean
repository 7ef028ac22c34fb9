import WeatherRelay.Fault

/-! Base-91 numerals: each digit is a printable character from `!` on, most significant first. -/

set_option autoImplicit false

namespace WeatherRelay.Base91

/-- The code of digit zero. -/
def offset : UInt8 := 33

def digit (value : UInt32) : UInt8 := value.toUInt8 + offset

/-- The last four digits of a number. -/
def encodePosition (n : UInt32) : List UInt8 :=
  [digit (n / 753571 % 91), digit (n % 753571 / 8281), digit (n % 8281 / 91), digit (n % 91)]

/-- Two digits; numbers from `91²` on have more. -/
def encodeTelemetry (n : UInt16) : Except ReportError (List UInt8) :=
  if 8280 < n then .error (.encodingRange n)
  else .ok [(n / 91).toUInt8 + offset, (n % 91).toUInt8 + offset]

end WeatherRelay.Base91
