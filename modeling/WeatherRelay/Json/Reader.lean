import WeatherRelay.Json.Tree

/-! Reading JSON, exactly as its grammar has it: nothing but blanks around the value, and nothing
lenient inside.
-/

set_option autoImplicit false

namespace WeatherRelay.Json

/-- What reads from the front of the input, with the input behind it. -/
abbrev Reader (α : Type) := List Symbol → Option (α × List Symbol)

def isBlank : Symbol → Bool
  | some c => c = ' ' || c = '\t' || c = '\n' || c = '\r'
  | none => false

def skipBlank (input : List Symbol) : List Symbol := input.dropWhile isBlank

def hexValue? (c : Char) : Option Nat :=
  if c.isDigit then some (c.toNat - '0'.toNat)
  else if 'a' ≤ c && c ≤ 'f' then some (c.toNat - 'a'.toNat + 10)
  else if 'A' ≤ c && c ≤ 'F' then some (c.toNat - 'A'.toNat + 10)
  else none

/-- Where in a string the reader is. -/
inductive StringState where
  | plain
  | escaped
  /-- Inside an escape by code: the hexadecimal digits still to come, and the value so far. -/
  | inCode (digits value : Nat)
  deriving DecidableEq, Repr

def escapedChar? (c : Char) : Option Char :=
  if c = '"' || c = '\\' || c = '/' then some c
  else if c = 'b' then some '\x08'
  else if c = 'f' then some '\x0c'
  else if c = 'n' then some '\n'
  else if c = 'r' then some '\r'
  else if c = 't' then some '\t'
  else none

/-- The units of a string up to its closing quote. -/
def readUnits : StringState → Reader (List StringUnit)
  | _, [] => none
  | .plain, none :: rest => do
    let (units, rest) ← readUnits .plain rest
    some (.malformed :: units, rest)
  | .plain, some c :: rest =>
    if c = '"' then some ([], rest)
    else if c = '\\' then readUnits .escaped rest
    else if c < ' ' then none
    else do
      let (units, rest) ← readUnits .plain rest
      some (.char c :: units, rest)
  | .escaped, none :: _ => none
  | .escaped, some c :: rest =>
    if c = 'u' then readUnits (.inCode 4 0) rest
    else do
      let c ← escapedChar? c
      let (units, rest) ← readUnits .plain rest
      some (.char c :: units, rest)
  | .inCode _ _, none :: _ => none
  | .inCode digits value, some c :: rest => do
    let value := 16 * value + (← hexValue? c)
    if digits ≤ 1 then
      let (units, rest) ← readUnits .plain rest
      some (.code value :: units, rest)
    else readUnits (.inCode (digits - 1) value) rest

def readDigits : List Symbol → List Char × List Symbol
  | some c :: rest =>
    if c.isDigit then
      let (digits, rest) := readDigits rest
      (c :: digits, rest)
    else ([], some c :: rest)
  | rest => ([], rest)

def readSomeDigits : Reader (List Char) := fun input =>
  match readDigits input with
  | ([], _) => none
  | (digits, rest) => some (digits, rest)

/-- Digits without a zero in front of others. -/
def readWhole : Reader (List Char) := fun input =>
  match readDigits input with
  | ([], _) => none
  | ('0' :: _ :: _, _) => none
  | (digits, rest) => some (digits, rest)

def readFraction : Reader (Option (List Char))
  | some '.' :: rest => (readSomeDigits rest).map fun (digits, rest) => (some digits, rest)
  | rest => some (none, rest)

def readPower : Reader (Option Int)
  | some c :: rest =>
    if c = 'e' || c = 'E' then
      let (negative, rest) :=
        match rest with
        | some '-' :: rest => (true, rest)
        | some '+' :: rest => (false, rest)
        | rest => (false, rest)
      (readSomeDigits rest).map fun (digits, rest) =>
        let value : Int := Decimal.digitsValue digits
        (some (if negative then -value else value), rest)
    else some (none, some c :: rest)
  | rest => some (none, rest)

def readNumber (negative : Bool) : Reader Tree := fun input => do
  let (whole, input) ← readWhole input
  let (fraction, input) ← readFraction input
  let (power, input) ← readPower input
  some (.number ⟨negative, whole, fraction, power⟩, input)

def readWord (word : List Char) (value : Tree) : Reader Tree := fun input =>
  match word, input with
  | [], input => some (value, input)
  | _ :: _, [] => none
  | c :: word, symbol :: input => if symbol = some c then readWord word value input else none

def readKey : Reader (List StringUnit) := fun input =>
  match skipBlank input with
  | some '"' :: input => do
    let (key, input) ← readUnits .plain input
    match skipBlank input with
    | some ':' :: input => some (key, input)
    | _ => none
  | _ => none

mutual

/-- A value behind blanks. -/
def readValue : Nat → Reader Tree
  | 0, _ => none
  | fuel + 1, input =>
    match skipBlank input with
    | some '"' :: input => (readUnits .plain input).map fun (units, input) => (.string units, input)
    | some '[' :: input =>
      match skipBlank input with
      | some ']' :: input => some (.array [], input)
      | input => (readItems fuel input).map fun (items, input) => (.array items, input)
    | some '\x7b' :: input =>
      match skipBlank input with
      | some '\x7d' :: input => some (.object [], input)
      | input => (readMembers fuel input).map fun (members, input) => (.object members, input)
    | some 'n' :: input => readWord ['u', 'l', 'l'] .null input
    | some 't' :: input => readWord ['r', 'u', 'e'] (.bool true) input
    | some 'f' :: input => readWord ['a', 'l', 's', 'e'] (.bool false) input
    | some '-' :: input => readNumber true input
    | input => readNumber false input

def readItems : Nat → Reader (List Tree)
  | 0, _ => none
  | fuel + 1, input => do
    let (item, input) ← readValue fuel input
    match skipBlank input with
    | some ',' :: input =>
      let (items, input) ← readItems fuel input
      some (item :: items, input)
    | some ']' :: input => some ([item], input)
    | _ => none

def readMembers : Nat → Reader (List (List StringUnit × Tree))
  | 0, _ => none
  | fuel + 1, input => do
    let (key, input) ← readKey input
    let (value, input) ← readValue fuel input
    match skipBlank input with
    | some ',' :: input =>
      let (members, input) ← readMembers fuel input
      some ((key, value) :: members, input)
    | some '\x7d' :: input => some ([(key, value)], input)
    | _ => none

end

/-- The value that an input spells. Every two nested calls consume a symbol, so the fuel is
enough. -/
def read? (input : List Symbol) : Option Tree := do
  let (value, rest) ← readValue (2 * input.length + 2) input
  if (skipBlank rest).isEmpty then some value else none

end WeatherRelay.Json
