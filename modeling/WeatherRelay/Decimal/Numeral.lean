import WeatherRelay.Decimal.Basic

/-! Numerals as people write them in settings: a sign, digits with a point and an exponent, or
the name of a special value.
-/

set_option autoImplicit false

namespace WeatherRelay

namespace Decimal

def takeDigits (text : List Char) : List Char × List Char :=
  (text.takeWhile Char.isDigit, text.dropWhile Char.isDigit)

def takeSign : List Char → Bool × List Char
  | '-' :: rest => (true, rest)
  | '+' :: rest => (false, rest)
  | text => (false, text)

/-- The exponent part at the end of a numeral: nothing, or `e` and a signed integer. -/
def readExponent? : List Char → Option Int
  | [] => some 0
  | mark :: rest =>
    if mark = 'e' || mark = 'E' then
      let (negative, digits) := takeSign rest
      if digits.isEmpty || !digits.all Char.isDigit then none
      else
        let value : Int := digitsValue digits
        some (if negative then -value else value)
    else none

/-- Digits with an optional point, at least one digit in all, and an optional exponent. -/
def readUnsigned? (negative : Bool) (text : List Char) : Option Decimal :=
  let (whole, rest) := takeDigits text
  let (fraction, rest) :=
    match rest with
    | '.' :: rest => takeDigits rest
    | _ => ([], rest)
  if whole.isEmpty && fraction.isEmpty then none
  else (readExponent? rest).map fun power => ofParts negative whole fraction power

/-- Decimal digits after an optional plus sign, no more than a bound. -/
def naturalOf? (bound : Nat) (text : String) : Option Nat :=
  let digits :=
    match text.toList with
    | '+' :: rest => rest
    | digits => digits
  if digits.isEmpty || !digits.all Char.isDigit then none
  else
    let value := digitsValue digits
    if value ≤ bound then some value else none

end Decimal

/-- The number that a numeral stands for, special values in any case of their letters. -/
def Binary.ofNumeral? (format : Format) (text : String) : Option (Binary format) :=
  let (negative, unsigned) := Decimal.takeSign text.toList
  let name := String.ofList (unsigned.map Char.toLower)
  if name = "inf" || name = "infinity" then some (.infinity negative)
  else if name = "nan" then some .nan
  else (Decimal.readUnsigned? negative unsigned).map (Decimal.toBinary format)

end WeatherRelay
