import WeatherRelay.Decimal.Layout

/-! Dates, times of day and date-times: which spellings are valid, and how they are written. -/

set_option autoImplicit false

namespace WeatherRelay.Toml

/-- The part of a date-time that was read, in its written form, and the text behind it. -/
abbrev DatePart := Option (String × List Char)

private def twoDigits? : List Char → Option (Nat × List Char)
  | a :: b :: rest =>
    if a.isDigit && b.isDigit then some (Decimal.digitsValue [a, b], rest) else none
  | _ => none

private def mark? (mark : Char) : List Char → Option (List Char)
  | c :: rest => if c = mark then some rest else none
  | [] => none

private def two (value : Nat) : String := zeroPad 2 (toString value)

/-- A full date. Every month may have 31 days. -/
def date? (text : List Char) : DatePart := do
  let (century, text) ← twoDigits? text
  let (year, text) ← twoDigits? text
  let (month, text) ← twoDigits? (← mark? '-' text)
  let (day, text) ← twoDigits? (← mark? '-' text)
  if 1 ≤ month && month ≤ 12 && 1 ≤ day && day ≤ 31 then
    some (two century ++ two year ++ "-" ++ two month ++ "-" ++ two day, text)
  else none

/-- The fraction of a second, cut to nine digits and without zeros at its end. -/
def secondFraction? : List Char → DatePart
  | '.' :: rest =>
    let digits := rest.takeWhile Char.isDigit
    if digits.isEmpty then none
    else
      let kept := ((digits.take 9).reverse.dropWhile (· = '0')).reverse
      let written := if kept.isEmpty then "" else "." ++ String.ofList kept
      some (written, rest.dropWhile Char.isDigit)
  | text => some ("", text)

/-- A time of day; the hour may be 24. -/
def timeOfDay? (text : List Char) : DatePart := do
  let (hour, text) ← twoDigits? text
  let (minute, text) ← twoDigits? (← mark? ':' text)
  let (second, text) ← twoDigits? (← mark? ':' text)
  let (fraction, text) ← secondFraction? text
  if hour ≤ 24 && minute ≤ 59 && second ≤ 59 then
    some (two hour ++ ":" ++ two minute ++ ":" ++ two second ++ fraction, text)
  else none

/-- The offset from universal time. Half hours west of it lose their sign with their hour. -/
def offset? : List Char → DatePart
  | [] => some ("", [])
  | 'Z' :: rest | 'z' :: rest => some ("Z", rest)
  | sign :: rest =>
    if sign = '+' || sign = '-' then do
      let (hours, text) ← twoDigits? rest
      let (minutes, text) ← twoDigits? (← mark? ':' text)
      let written := if sign = '-' && hours != 0 then "-" else "+"
      some (written ++ two hours ++ ":" ++ two minutes, text)
    else none

/-- The time of day behind a date, if there is one. -/
def timeBehindDate? : List Char → DatePart
  | [] => some ("", [])
  | c :: rest =>
    if c = 'T' || c = 't' || c = ' ' then do
      let (time, rest) ← timeOfDay? rest
      some ("T" ++ time, rest)
    else some ("", c :: rest)

/-- A time of day, or a date with a time of day or without and with an offset or without, in its
written form. -/
def dateTime? (text : List Char) : Option String := do
  if text[2]? = some ':' then
    let (time, rest) ← timeOfDay? text
    if rest.isEmpty then some time else none
  else
    let (date, rest) ← date? text
    let (time, rest) ← timeBehindDate? rest
    let (offset, rest) ← offset? rest
    if rest.isEmpty then some (date ++ time ++ offset) else none

end WeatherRelay.Toml
