import WeatherRelay.Decimal.Numeral
import WeatherRelay.Json.Reader

/-! The spellings of integers and the digits of floats. -/

set_option autoImplicit false

namespace WeatherRelay.Toml

/-- Digits of a base with underscores between them. Gives the digits and the text behind them.
`started` tells whether a digit came before, `afterUnderscore` whether an underscore came last. -/
def readDigits (base : Nat) (started afterUnderscore : Bool) :
    List Char → Option (List Nat × List Char)
  | [] => if !started || afterUnderscore then none else some ([], [])
  | c :: rest =>
    match (Json.hexValue? c).filter (· < base) with
    | some digit => do
      let (digits, rest) ← readDigits base true false rest
      some (digit :: digits, rest)
    | none =>
      if c = '_' && started && !afterUnderscore then readDigits base true true rest
      else if !started || afterUnderscore then none
      else some ([], c :: rest)

/-- Decimal digits without a zero in front of others, behind an optional sign. -/
def readSigned (text : List Char) : Option (Bool × List Nat × List Char) := do
  let (negative, text) := Decimal.takeSign text
  let (digits, rest) ← readDigits 10 false false text
  match digits with
  | 0 :: _ :: _ => none
  | digits => some (negative, digits, rest)

def valueOf (base : Nat) (digits : List Nat) : Nat :=
  digits.foldl (fun value digit => base * value + digit) 0

/-- An integer of sixty-four bits with a sign. -/
def word? (value : Int) : Option Int :=
  if -(twoTo 63 : Int) ≤ value && value < (twoTo 63 : Int) then some value else none

/-- An integer in another base than ten, behind its prefix. -/
def based? (base : Nat) (text : List Char) : Option Int := do
  let (digits, rest) ← readDigits base false false text
  if rest.isEmpty then word? (valueOf base digits) else none

def decimal? (text : List Char) : Option Int := do
  let (negative, digits, rest) ← readSigned text
  let value : Int := valueOf 10 digits
  if rest.isEmpty then word? (if negative then -value else value) else none

end WeatherRelay.Toml
