import WeatherRelay.Decimal.Layout

/-! How JSON is written. -/

set_option autoImplicit false

namespace WeatherRelay.Json

/-- A character inside a string. Controls are escaped; all else that can stand for itself does. -/
def charText (c : Char) : String :=
  if c = '"' then "\\\""
  else if c = '\\' then "\\\\"
  else if c = '\x08' then "\\b"
  else if c = '\t' then "\\t"
  else if c = '\n' then "\\n"
  else if c = '\x0c' then "\\f"
  else if c = '\r' then "\\r"
  else if c < ' ' then "\\u" ++ zeroPad 4 (String.ofList (Nat.toDigits 16 c.toNat))
  else c.toString

def stringText (text : String) : String :=
  "\"" ++ String.join (text.toList.map charText) ++ "\""

/-- Whether a decimal is written without an exponent: from 1e-6 up to below 1e13. -/
def isPlain (digits : Nat) (power : Int) : Bool :=
  let pointAt := (toString digits).length + power
  pointAt ≤ 13 && -5 ≤ pointAt

/-- The shortest number that reads back. What is not finite is null. -/
def numberText {format : Format} : Binary format → String
  | .nan | .infinity _ => "null"
  | .finite negative rank =>
    let sign := if negative then "-" else ""
    if rank.val = 0 then sign ++ "0.0"
    else
      let (digits, power) := Decimal.shortest format rank
      if isPlain digits power then
        sign ++ Decimal.positional digits power ++ (if 0 ≤ power then ".0" else "")
      else sign ++ Decimal.scientific digits power

def optionText {α : Type} (f : α → String) : Option α → String
  | none => "null"
  | some value => f value

def arrayText (items : List String) : String := "[" ++ String.intercalate "," items ++ "]"

def objectText (fields : List (String × String)) : String :=
  "\x7b" ++ String.intercalate "," (fields.map fun (key, value) => stringText key ++ ":" ++ value) ++
    "\x7d"

/-- An object over several lines, all but the first behind an indent. -/
def prettyObjectText (indent : String) (fields : List (String × String)) : String :=
  if fields.isEmpty then "\x7b\x7d"
  else
    let lines := fields.map fun (key, value) => indent ++ "  " ++ stringText key ++ ": " ++ value
    "\x7b\n" ++ String.intercalate ",\n" lines ++ "\n" ++ indent ++ "\x7d"

end WeatherRelay.Json
