import WeatherRelay.Configuration.Scalar

/-! Structures in a document: tables with known keys, or lists of the fields in order. -/

set_option autoImplicit false

namespace WeatherRelay.Configuration

open Toml (Value Entries)

def unexpectedShape : Value → String
  | .nothing => "unit value"
  | .text value => "string " ++ Text.quoted value
  | .integer value => ticked "integer" (toString value)
  | .float value =>
    let text := value.plainText
    ticked "floating point" (if value.isFinite && !text.contains '.' then text ++ ".0" else text)
  | .bool value => ticked "boolean" (boolText value)
  | .array _ => "sequence"
  | .table _ _ => "map"

def refuseShape {α : Type} (value : Value) (expected : String) : Conversion α :=
  .error (.message ("invalid type: " ++ unexpectedShape value ++ ", expected " ++ expected))

/-- A field of a structure: how its value is read into the structure. -/
structure Field (α : Type) where
  name : String
  required : Bool := false
  read : Value → α → Conversion α

/-- A field whose value is converted and then put in its place. -/
def Field.of {α β : Type} (name : String) (convert : Value → Conversion β) (put : β → α → α) :
    Field α where
  name
  read value record := do .ok (put (← convert value) record)

def Field.require {α : Type} (field : Field α) : Field α := { field with required := true }

/-- A structure: its name, what it is where nothing is given, and its fields. -/
structure Shape (α : Type) where
  name : String
  standard : α
  fields : List (Field α)

namespace Shape

variable {α : Type}

/-- Read the entries of a table. Unknown keys are passed over. -/
def readEntries (shape : Shape α) (entries : Entries) : Conversion α := do
  let record ← entries.foldlM
    (fun record (key, value) =>
      match shape.fields.find? (·.name = key) with
      | none => .ok record
      | some field => (field.read value record).mapError (.underKey key))
    shape.standard
  match shape.fields.find? fun field => field.required && (entries.find? field.name).isNone with
  | none => .ok record
  | some field => .error (.message (ticked "missing field" field.name))

def sizeText (shape : Shape α) : String :=
  let count := shape.fields.length
  "struct " ++ shape.name ++ " with " ++ toString count ++
    (if count = 1 then " element" else " elements")

/-- Read fields by position. What is left out keeps its standard value, if it has one. -/
def readItems (shape : Shape α) (index : Nat) (record : α) :
    List (Field α) → List Value → Conversion α
  | [], _ => .ok record
  | field :: fields, value :: values => do
    let record ← (field.read value record).mapError (.underIndex index)
    shape.readItems (index + 1) record fields values
  | field :: fields, [] =>
    if field.required then
      .error (.message
        ("invalid length " ++ toString index ++ ", expected " ++ shape.sizeText))
    else shape.readItems (index + 1) record fields []

def read (shape : Shape α) : Value → Conversion α
  | .table _ entries => shape.readEntries entries
  | .array items => shape.readItems 0 shape.standard shape.fields items
  | other => refuseShape other ("struct " ++ shape.name)

end Shape

def readListFrom {α : Type} (convert : Value → Conversion α) (index : Nat) :
    List Value → Conversion (List α)
  | [] => .ok []
  | value :: rest => do
    let first ← (convert value).mapError (.underIndex index)
    .ok (first :: (← readListFrom convert (index + 1) rest))

def readList {α : Type} (convert : Value → Conversion α) : Value → Conversion (List α)
  | .array items => readListFrom convert 0 items
  | other => refuseShape other "a sequence"

end WeatherRelay.Configuration
