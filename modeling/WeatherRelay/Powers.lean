/-! The powers that bound words and place digits. -/

set_option autoImplicit false

namespace WeatherRelay

/-- The number of values that a word of so many bits has. -/
abbrev twoTo (bits : Nat) : Nat := Nat.pow 2 bits

abbrev tenTo (places : Nat) : Nat := Nat.pow 10 places

end WeatherRelay
