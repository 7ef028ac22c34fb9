import WeatherRelay.Json.Number
import WeatherRelay.Text.Utf8

/-! JSON values as they were read.

Strings and numbers are kept as they are spelled: a string may not be text and a number may be
beyond every format, and that only matters to whoever looks at it.
-/

set_option autoImplicit false

namespace WeatherRelay.Json

/-- A character of the input, or none where its bytes are not UTF-8. -/
abbrev Symbol := Option Char

inductive StringUnit where
  | char (c : Char)
  /-- Bytes that are not UTF-8. -/
  | malformed
  /-- A code of sixteen bits in an escape. -/
  | code (value : Nat)
  deriving DecidableEq, Repr

inductive Tree where
  | null
  | bool (value : Bool)
  | number (spelling : Number)
  | string (units : List StringUnit)
  | array (items : List Tree)
  | object (members : List (List StringUnit × Tree))

instance : Inhabited Tree := ⟨.null⟩

def symbolsOfText (text : String) : List Symbol := text.toList.map some

def symbolsOfBytes (bytes : Text.Utf8.Bytes) : List Symbol :=
  (Text.Utf8.pieces bytes).map fun
    | .scalar c => some c
    | _ => none

def isHighSurrogate (code : Nat) : Bool := 0xD800 ≤ code && code < 0xDC00

def isLowSurrogate (code : Nat) : Bool := 0xDC00 ≤ code && code < 0xE000

/-- The characters of a string; none where it holds a surrogate without its partner or bytes
that are not UTF-8. -/
def decodeUnits : List StringUnit → Option (List Char)
  | [] => some []
  | .char c :: rest => (decodeUnits rest).map (c :: ·)
  | .malformed :: _ => none
  | .code high :: .code low :: rest =>
    if isHighSurrogate high then
      if isLowSurrogate low then
        let c := Char.ofNat (0x10000 + (high - 0xD800) * 0x400 + (low - 0xDC00))
        (decodeUnits rest).map (c :: ·)
      else none
    else if isLowSurrogate high then none
    else (decodeUnits (.code low :: rest)).map (Char.ofNat high :: ·)
  | .code code :: rest =>
    if isHighSurrogate code || isLowSurrogate code then none
    else (decodeUnits rest).map (Char.ofNat code :: ·)

def decodeString? (units : List StringUnit) : Option String :=
  (decodeUnits units).map String.ofList

namespace Tree

def toText? : Tree → Option String
  | string units => decodeString? units
  | _ => none

def toBinary32? : Tree → Option Binary32
  | number spelling => spelling.toBinary32?
  | _ => none

/-- Null is an absent value. -/
def toOption? {α : Type} (convert : Tree → Option α) : Tree → Option (Option α)
  | null => some none
  | tree => (convert tree).map some

def toList? {α : Type} (convert : Tree → Option α) : Tree → Option (List α)
  | array items => items.mapM convert
  | _ => none

end Tree

end WeatherRelay.Json
