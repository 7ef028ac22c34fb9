import WeatherRelay.Decimal.Shortest

/-! How numbers are written: padded integers, positional and scientific decimals, and decimals
with a fixed number of places.
-/

set_option autoImplicit false

namespace WeatherRelay

def zeroPad (width : Nat) (text : String) : String :=
  String.ofList (List.replicate (width - text.length) '0') ++ text

/-- An integer with zeros up to the given width, which counts the minus sign. -/
def paddedInt (width : Nat) (value : Int) : String :=
  if value < 0 then "-" ++ zeroPad (width - 1) (toString value.natAbs)
  else zeroPad width (toString value.natAbs)

namespace Decimal

/-- The digits with a point before the last `places` of them, at least one digit in front. -/
def pointed (places digits : Nat) : String :=
  if places = 0 then toString digits
  else
    let whole := digits / tenTo places
    let fraction := digits % tenTo places
    toString whole ++ "." ++ zeroPad places (toString fraction)

/-- Digits times a power of ten without an exponent. -/
def positional (digits : Nat) (power : Int) : String :=
  if 0 ≤ power then toString (digits * tenTo power.toNat) else pointed (-power).toNat digits

/-- One digit before the point, and a signed exponent. -/
def scientific (digits : Nat) (power : Int) : String :=
  let text := (toString digits).toList
  let exponent := power + (text.length - 1 : Nat)
  let fraction := text.drop 1
  let mantissa := String.ofList (text.take 1) ++
    (if fraction.isEmpty then "" else "." ++ String.ofList fraction)
  mantissa ++ "e" ++ (if exponent < 0 then "-" else "+") ++ toString exponent.natAbs

end Decimal

namespace Binary

variable {format : Format}

private def signText (negative : Bool) : String := if negative then "-" else ""

/-- The shortest positional text that reads back. -/
def plainText : Binary format → String
  | .nan => "NaN"
  | .infinity negative => signText negative ++ "inf"
  | .finite negative rank =>
    if rank.val = 0 then signText negative ++ "0"
    else
      let (digits, power) := Decimal.shortest format rank
      signText negative ++ Decimal.positional digits power

/-- The text with exactly `places` digits after the point; a tie of the exact value goes to the
even digit. -/
def fixedText (places : Nat) : Binary format → String
  | .nan => "NaN"
  | .infinity negative => signText negative ++ "inf"
  | .finite negative rank =>
    let digits := (roundEven (format.magnitude rank * (10 : Rat) ^ places)).toNat
    signText negative ++ Decimal.pointed places digits

end Binary

end WeatherRelay
