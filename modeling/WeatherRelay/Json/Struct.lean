import WeatherRelay.Json.Reader

/-! Structures in JSON: objects with known fields, or arrays of the fields in order. -/

set_option autoImplicit false

namespace WeatherRelay.Json

abbrev Fields := List (String × Tree)

/-- The members with known keys. Every key must be text, and no known one may come twice. -/
def knownMembers? (names : List String) : List (List StringUnit × Tree) → Option Fields
  | [] => some []
  | (key, value) :: rest => do
    let key ← decodeString? key
    let fields ← knownMembers? names rest
    if names.contains key then
      if fields.any fun field => field.1 = key then none else some ((key, value) :: fields)
    else some fields

/-- The fields of an object, or the items of an array no longer than the list of names. -/
def fields? (names : List String) : Tree → Option Fields
  | .object members => knownMembers? names members
  | .array items => if items.length ≤ names.length then some (names.zip items) else none
  | _ => none

namespace Fields

def field? (fields : Fields) (name : String) : Option Tree :=
  (fields.find? fun field => field.1 = name).map Prod.snd

variable {α : Type}

def required? (fields : Fields) (name : String) (convert : Tree → Option α) : Option α :=
  (fields.field? name).bind convert

/-- A field that has a value of its own where it is not given. -/
def orDefault? (fields : Fields) (name : String) (convert : Tree → Option α) (standard : α) :
    Option α :=
  match fields.field? name with
  | none => some standard
  | some tree => convert tree

end Fields

end WeatherRelay.Json
