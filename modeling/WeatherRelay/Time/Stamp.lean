import WeatherRelay.Decimal.Layout
import WeatherRelay.Text.Blank
import WeatherRelay.Time.Instant

/-! Time stamps: how an instant is written, and the forms in which one is read. -/

set_option autoImplicit false

namespace WeatherRelay.Instant

/-- Four digits, or a sign and at least four digits outside the years 0 to 9999. -/
def yearText (year : Int) : String :=
  if 0 ≤ year && year ≤ 9999 then paddedInt 4 year
  else (if year < 0 then "-" else "+") ++ zeroPad 4 (toString year.natAbs)

/-- A fraction of a second: nothing, or the fewest of three, six or nine digits that are exact. -/
def fractionText (nanos : Nat) : String :=
  if nanos = 0 then ""
  else if nanos % 1000000 = 0 then "." ++ zeroPad 3 (toString (nanos / 1000000))
  else if nanos % 1000 = 0 then "." ++ zeroPad 6 (toString (nanos / 1000))
  else "." ++ zeroPad 9 (toString nanos)

def dateText (instant : Instant) : String :=
  let date := Date.ofDays (instant.seconds / 86400)
  yearText date.year ++ "-" ++ zeroPad 2 (toString date.month) ++ "-" ++
    zeroPad 2 (toString date.day)

/-- The time of day. A leap second is second sixty of its minute. -/
def timeText (instant : Instant) : String :=
  let ofDay := (instant.seconds % 86400).toNat
  let second := ofDay % 60 + instant.nanos / nanosPerSecond
  zeroPad 2 (toString (ofDay / 3600)) ++ ":" ++ zeroPad 2 (toString (ofDay / 60 % 60)) ++ ":" ++
    zeroPad 2 (toString second) ++ fractionText (instant.nanos % nanosPerSecond)

/-- The internet date and time of an instant, with zone `Z`. -/
def toStamp (instant : Instant) : String := instant.dateText ++ "T" ++ instant.timeText ++ "Z"

def toReadable (instant : Instant) : String := instant.dateText ++ " " ++ instant.timeText ++ " UTC"

/-! ### Reading

Blanks are allowed before every number and every mark, and seconds are required.
-/

abbrev Reader (α : Type) := List Char → Option (α × List Char)

def skipBlank (text : List Char) : List Char := text.dropWhile Text.isBlank

/-- One to `width` digits, after blanks. -/
def readNumber (width : Nat) : Reader Nat := fun text =>
  let text := skipBlank text
  let digits := (text.take width).takeWhile Char.isDigit
  if digits.isEmpty then none
  else some (Decimal.digitsValue digits, text.drop digits.length)

/-- A number of at most four digits, or a sign and any number of them. -/
def readYear : Reader Int := fun text =>
  match skipBlank text with
  | '-' :: rest =>
    if (rest.head?.map Char.isDigit).getD false then
      (readNumber rest.length rest).map fun (year, rest) => (-(year : Int), rest)
    else none
  | '+' :: rest =>
    if (rest.head?.map Char.isDigit).getD false then
      (readNumber rest.length rest).map fun (year, rest) => ((year : Int), rest)
    else none
  | text => (readNumber 4 text).map fun (year, rest) => ((year : Int), rest)

def readMark (mark : Char) : Reader Unit := fun text =>
  match skipBlank text with
  | c :: rest => if c = mark then some ((), rest) else none
  | [] => none

def readDate : Reader Date := fun text => do
  let (year, text) ← readYear text
  let ((), text) ← readMark '-' text
  let (month, text) ← readNumber 2 text
  let ((), text) ← readMark '-' text
  let (day, text) ← readNumber 2 text
  let date : Date := ⟨year, month, day⟩
  if date.valid then some (date, text) else none

def readSeparator : Reader Unit
  | [] => none
  | c :: rest => if c = 'T' || c = 't' || Text.isBlank c then some ((), rest) else none

/-- Nine digits after a point; further digits are dropped. -/
def readFraction : Reader Nat
  | '.' :: rest =>
    let digits := rest.takeWhile Char.isDigit
    if digits.isEmpty then none
    else
      let kept := digits.take 9
      some (Decimal.digitsValue kept * tenTo (9 - kept.length), rest.drop digits.length)
  | text => some (0, text)

/-- Seconds of the day and nanoseconds; second sixty is a leap second. -/
def readTime : Reader (Nat × Nat) := fun text => do
  let (hour, text) ← readNumber 2 text
  let ((), text) ← readMark ':' text
  let (minute, text) ← readNumber 2 text
  let ((), text) ← readMark ':' text
  let (second, text) ← readNumber 2 text
  let (nanos, text) ← readFraction text
  if hour ≤ 23 && minute ≤ 59 && second ≤ 60 then
    let whole := hour * 3600 + minute * 60
    if second = 60 then some ((whole + 59, nanosPerSecond + nanos), text)
    else some ((whole + second, nanos), text)
  else none

private def twoDigits : Reader Nat
  | a :: b :: rest =>
    if a.isDigit && b.isDigit then some (Decimal.digitsValue [a, b], rest) else none
  | _ => none

/-- Seconds east of universal time: a name for zero, or a sign, hours and minutes. -/
def readZone : Reader Int := fun text =>
  let text := skipBlank text
  let name := String.ofList ((text.take 3).map Char.toUpper)
  if name = "UTC" then some (0, text.drop 3)
  else
    let signed (negative : Bool) (text : List Char) : Option (Int × List Char) := do
      let (hours, text) ← twoDigits text
      let (minutes, text) ← twoDigits (text.dropWhile fun c => c = ':' || Text.isBlank c)
      if minutes ≤ 59 && hours ≤ 23 then
        let offset : Int := hours * 3600 + minutes * 60
        some (if negative then -offset else offset, text)
      else none
    match text with
    | 'Z' :: rest | 'z' :: rest => some (0, rest)
    | '+' :: rest => signed false rest
    | '-' :: rest | '\u2212' :: rest => signed true rest
    | _ => none

def ofStamp? (text : String) : Option Instant := do
  let (date, text) ← readDate text.toList
  let ((), text) ← readSeparator text
  let ((ofDay, nanos), text) ← readTime text
  let (offset, text) ← readZone text
  if (skipBlank text).isEmpty && Date.first.toDays ≤ date.toDays && date.toDays ≤ Date.last.toDays then
    ofParts? (date.toDays * 86400 + ofDay - offset) nanos
  else none

end WeatherRelay.Instant
