import WeatherRelay.Decimal.Numeral
import WeatherRelay.Toml.Value

/-! Keys at the top of a document that name a place deeper in it, such as `directory.run`. -/

set_option autoImplicit false

namespace WeatherRelay.Configuration

open Toml (Value Entries)

/-- A step from a value to one inside it. -/
inductive Step where
  | key (name : String)
  /-- An item of a list, counted from its end where the number is negative. -/
  | index (position : Int)
  deriving DecidableEq, Repr

def isNameChar (c : Char) : Bool := c.isAlphanum || c = ' ' || c = '_' || c = '-'

def readName (text : List Char) : Option (Step × List Char) :=
  let name := text.takeWhile isNameChar
  if name.isEmpty then none else some (.key (String.ofList name), text.dropWhile isNameChar)

/-- A number in brackets, behind the first of them. -/
def readIndex (text : List Char) : Option (Step × List Char) :=
  let (negative, rest) :=
    match text with
    | '-' :: rest => (true, rest)
    | rest => (false, rest)
  let (digits, rest) := Decimal.takeDigits rest
  let position : Int := Decimal.digitsValue digits
  match rest with
  | ']' :: rest =>
    if digits.isEmpty || (twoTo 63 : Int) ≤ position then none
    else some (.index (if negative then -position else position), rest)
  | _ => none

def readSteps : Nat → List Char → Option (List Step)
  | _, [] => some []
  | 0, _ => none
  | fuel + 1, '.' :: rest => do
    let (step, rest) ← readName rest
    some (step :: (← readSteps fuel rest))
  | fuel + 1, '[' :: rest => do
    let (step, rest) ← readIndex rest
    some (step :: (← readSteps fuel rest))
  | _, _ => none

/-- The place that a key names. A key that is not a path names itself. -/
def placeOf (key : String) : List Step :=
  let steps := do
    let (first, rest) ← readName key.toList
    some (first :: (← readSteps rest.length rest))
  steps.getD [.key key]

def entriesOf : Value → Entries
  | .table _ entries => entries
  | _ => []

def itemsOf : Value → List Value
  | .array items => items
  | _ => []

mutual

/-- A value over an old one. Tables are merged, and anything else is replaced. -/
def merge (old : Value) : Value → Value
  | .table dotted entries => .table dotted (mergeEntries (entriesOf old) entries)
  | value => value

def mergeEntries (old : Entries) : Entries → Entries
  | [] => old
  | (key, value) :: rest =>
    mergeEntries (old.set key (merge ((old.find? key).getD .nothing) value)) rest

end

def positionOf (position : Int) (length : Nat) : Nat :=
  if position < 0 then length - position.natAbs else position.toNat

/-- Put a value at a place. Whatever is in the way gives way to a table or a list. -/
def place (value : Value) : List Step → Value → Value
  | [], old => merge old value
  | [.index position], old =>
    let items := itemsOf old
    let position := positionOf position items.length
    .array ((items ++ List.replicate (position + 1 - items.length) Value.nothing).set position value)
  | .key name :: rest, old =>
    let entries := entriesOf old
    .table false (entries.set name (place value rest ((entries.find? name).getD .nothing)))
  | .index position :: rest, old =>
    let items := itemsOf old
    let position := positionOf position items.length
    let items := items ++ List.replicate (position + 1 - items.length) Value.nothing
    .array (items.set position (place value rest (items.getD position .nothing)))

def placeAll (entries : Entries) : Entries :=
  entriesOf (entries.foldl
    (fun root (key, value) => place value (placeOf key) root) (.table false []))

end WeatherRelay.Configuration
