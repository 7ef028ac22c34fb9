import WeatherRelay.Binary.Integral
import WeatherRelay.Configuration.Basic
import WeatherRelay.Toml.Value

/-! How the scalars of a document turn into what a key wants: freely between numbers, switches
and text.
-/

set_option autoImplicit false

namespace WeatherRelay.Configuration

open Toml (Value)

abbrev Conversion := Except ConfigurationError

def refuse {α : Type} (unexpected expected : String) : Conversion α :=
  .error (.wrongType unexpected expected none)

def ticked (name text : String) : String := name ++ " `" ++ text ++ "`"

def boolText (value : Bool) : String := if value then "true" else "false"

def unexpected : Value → String
  | .nothing => "unit value"
  | .text value => "string " ++ Text.quoted value
  | .integer value => ticked "integer 64 bit" (toString value)
  | .float value => ticked "floating point" value.plainText
  | .bool value => ticked "boolean" (boolText value)
  | .array _ => "sequence"
  | .table _ _ => "map"

def lower (text : String) : String := String.ofList (text.toList.map Char.toLower)

def switch? (word : String) : Option Bool :=
  let word := lower word
  if word = "true" || word = "on" || word = "yes" then some true
  else if word = "false" || word = "off" || word = "no" then some false
  else none

/-- Numbers other than zero are true. -/
def toBool : Value → Conversion Bool
  | .bool value => .ok value
  | .integer value => .ok (value != 0)
  | .float value => .ok (!value.same 0)
  | .text value =>
    if value = "1" then .ok true
    else if value = "0" then .ok false
    else
      match switch? value with
      | some value => .ok value
      | none => refuse (unexpected (.text (lower value))) "a boolean"
  | other => refuse (unexpected other) "a boolean"

/-- Floats are rounded, a half away from zero, and held between the bounds of the type. -/
def toNatural : Value → Conversion Nat
  | .integer value =>
    if value < 0 then refuse (unexpected (.integer value)) "an unsigned 64 bit or less integer"
    else .ok value.toNat
  | .float value => .ok value.roundAway.toUInt64
  | .bool value => .ok value.toNat
  | .text value =>
    match (switch? value).map Bool.toNat <|> Decimal.naturalOf? (twoTo 64 - 1) value with
    | some value => .ok value
    | none => refuse (unexpected (.text value)) "an integer"
  | other => refuse (unexpected other) "an integer"

def floatOfNat (value : Nat) : Binary64 := .round false value

def toFloat : Value → Conversion Binary64
  | .float value => .ok value
  | .integer value => .ok (.round false value)
  | .bool value => .ok (floatOfNat value.toNat)
  | .text value =>
    match (switch? value).map (fun value => floatOfNat value.toNat) <|>
      Binary.ofNumeral? .double value with
    | some value => .ok value
    | none => refuse (unexpected (.text value)) "a floating point"
  | other => refuse (unexpected other) "a floating point"

def toText : Value → Conversion String
  | .text value => .ok value
  | .integer value => .ok (toString value)
  | .float value => .ok value.plainText
  | .bool value => .ok (boolText value)
  | other => refuse (unexpected other) "a string"

def toAddress (value : Value) : Conversion SocketAddress := do
  match SocketAddress.ofText? (← toText value) with
  | some address => .ok address
  | none => .error (.message "invalid socket address syntax")

def toOption {α : Type} (convert : Value → Conversion α) : Value → Conversion (Option α)
  | .nothing => .ok none
  | value => (convert value).map some

end WeatherRelay.Configuration
