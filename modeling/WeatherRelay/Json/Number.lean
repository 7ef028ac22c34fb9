import WeatherRelay.Decimal.Basic

/-! Numbers of JSON, as they are spelled and as they are read.

As many digits as fit are gathered in a word, and what they amount to is scaled by a power of ten in
double precision. Each of these steps rounds, so the number that is read need not be the nearest one
to the decimal that is spelled.
-/

set_option autoImplicit false

namespace WeatherRelay.Json

/-- A number as it is spelled: the digits before and behind the point, and the power of ten. -/
structure Number where
  negative : Bool
  whole : List Char
  fraction : Option (List Char)
  power : Option Int
  deriving DecidableEq, Repr

/-- Digits behind a word, and how many were left out since the word would overflow. -/
def gatherDigits : Nat → List Char → Nat × Nat
  | word, [] => (word, 0)
  | word, c :: rest =>
    let longer := 10 * word + (c.toNat - '0'.toNat)
    if longer < twoTo 64 then gatherDigits longer rest else (word, rest.length + 1)

/-- The nearest number to a power of ten that is in range. -/
def tenToDouble (power : Nat) : Binary64 := .round false (tenTo power : Nat)

/-- Division by powers of ten that are beyond the range themselves, and by a last one that is not.
Nothing is left to divide at zero. -/
def divideByTens : Nat → Nat → Binary64 → Binary64
  | 0, last, x => x / tenToDouble last
  | rounds + 1, last, x =>
    if x.same 0 then x else divideByTens rounds last (x / tenToDouble 308)

/-- A word times a power of ten, if it is in range. -/
def scaleByTens? (word : Nat) (power : Int) : Option Binary64 :=
  let x : Binary64 := .round false word
  if power < 0 then
    let rounds := (power.natAbs - 1) / 308
    some (divideByTens rounds (power.natAbs - 308 * rounds) x)
  else if power ≤ 308 then
    let product := x * tenToDouble power.toNat
    if product.isFinite then some product else none
  else if x.same 0 then some x
  else none

namespace Number

/-- Whether the number is spelled without point and exponent. -/
def isIntegral (number : Number) : Bool := number.fraction.isNone && number.power.isNone

/-- The decimal that is spelled. -/
def decimal (number : Number) : Decimal :=
  .ofParts number.negative number.whole (number.fraction.getD []) (number.power.getD 0)

/-- The digits that a word holds, with the power of ten behind them. Digits left out before the
point count as zeros; behind the point they do not count. -/
def scaled (number : Number) : Nat × Int :=
  let fraction := number.fraction.getD []
  let (word, zeros) := gatherDigits 0 number.whole
  let (word, ignored) := gatherDigits word fraction
  (word, (zeros : Int) - (fraction.length - ignored : Nat) + number.power.getD 0)

/-- An integer of at most sixty-four bits, with a sign or without. -/
def integer? (number : Number) : Option Nat :=
  let (word, zeros) := gatherDigits 0 number.whole
  if number.isIntegral && zeros == 0 && (!number.negative || word ≤ twoTo 63) then some word
  else none

def toBinary64? (number : Number) : Option Binary64 :=
  let (word, power) := number.scaled
  (scaleByTens? word power).map fun x => if number.negative then -x else x

/-- A number in single precision. All but integers of one word go through double precision, whose
range must not be left. -/
def toBinary32? (number : Number) : Option Binary32 :=
  match number.integer? with
  | some word => some (.round number.negative (if number.negative then -word else word))
  | none => number.toBinary64?.map Binary.convert

end Number

end WeatherRelay.Json
