import WeatherRelay.Binary.Basic

/-! Decimal numerals `± digits · 10^exponent` and their nearest binary numbers. -/

set_option autoImplicit false

namespace WeatherRelay

structure Decimal where
  negative : Bool
  digits : Nat
  exponent : Int
  deriving DecidableEq, Repr

/-- The binary exponent from which on every number of a format is infinite. -/
def Format.ceilingExponent (format : Format) : Int :=
  format.leastExponent + (format.infinityRank / format.binade - 1 : Nat) + (format.precision - 1 : Nat)

namespace Decimal

def toRat (decimal : Decimal) : Rat :=
  let magnitude := decimal.digits * (10 : Rat) ^ decimal.exponent
  if decimal.negative then -magnitude else magnitude

/-- The nearest binary number. Exponents far outside the format are settled without computing
the power of ten. -/
def toBinary (format : Format) (decimal : Decimal) : Binary format :=
  if decimal.digits = 0 then .round decimal.negative 0
  else if format.ceilingExponent ≤ decimal.exponent then .infinity decimal.negative
  else if (decimal.digits.log2 + 1 : Nat) + 3 * decimal.exponent < format.leastExponent then
    .round decimal.negative 0
  else .round decimal.negative decimal.toRat

def digitsValue (characters : List Char) : Nat :=
  characters.foldl (fun value c => 10 * value + (c.toNat - '0'.toNat)) 0

/-- A decimal from the characters before and after the point and the power of ten behind them. -/
def ofParts (negative : Bool) (whole fraction : List Char) (power : Int) : Decimal :=
  ⟨negative, digitsValue (whole ++ fraction), power - fraction.length⟩

end Decimal

end WeatherRelay
