import WeatherRelay.Text.Extending
import WeatherRelay.Text.Unprintable

/-! Texts as messages quote them: in double quotes, every character visible. -/

set_option autoImplicit false

namespace WeatherRelay.Text

/-- A code point in braces, in lower-case hexadecimal. -/
def escapedCode (c : Char) : String :=
  "\\u\x7b" ++ String.ofList (Nat.toDigits 16 c.toNat) ++ "\x7d"

def quotedChar (c : Char) : String :=
  if c = '\x00' then "\\0"
  else if c = '\t' then "\\t"
  else if c = '\r' then "\\r"
  else if c = '\n' then "\\n"
  else if c = '"' then "\\\""
  else if c = '\\' then "\\\\"
  else if ' ' ≤ c && c ≤ '~' then c.toString
  else if isExtending c || isUnprintable c then escapedCode c
  else c.toString

/-- A text in double quotes. Characters that extend their neighbour or show nothing are written
by code point. -/
def quoted (text : String) : String :=
  "\"" ++ String.join (text.toList.map quotedChar) ++ "\""

end WeatherRelay.Text
