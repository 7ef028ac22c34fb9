import WeatherRelay.Text.Utf8

/-! The passcode that the network derives from a callsign. -/

set_option autoImplicit false

namespace WeatherRelay.Passcode

/-- The part of a callsign that counts: upper-case ASCII, up to the first hyphen. -/
def base (callsign : String) : Text.Utf8.Bytes :=
  Text.Utf8.encode (String.ofList ((callsign.toList.takeWhile (· ≠ '-')).map Char.toUpper))

/-- Bytes are folded in by pairs, the first of each into the high half. -/
def fold (code : UInt16) : Text.Utf8.Bytes → UInt16
  | [] => code
  | [high] => code ^^^ (high.toUInt16 <<< 8)
  | high :: low :: rest => fold (code ^^^ (high.toUInt16 <<< 8) ^^^ low.toUInt16) rest

def ofCallsign (callsign : String) : UInt16 := fold 0x73e2 (base callsign) &&& 0x7fff

end WeatherRelay.Passcode
