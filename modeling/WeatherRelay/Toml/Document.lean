import WeatherRelay.Toml.Parser

/-! The tables of a TOML document, put together from its sections. -/

set_option autoImplicit false

namespace WeatherRelay.Toml

/-- A header and the entries under it. The entries in front of the first header are a section
whose header is empty. -/
structure Section where
  header : List String := []
  array : Bool := false
  entries : Entries := []

def sectionsFrom (current : Section) : List Line → Option (List Section)
  | [] => some [current]
  | .header path array :: rest => do
    some (current :: (← sectionsFrom { header := path, array } rest))
  | .pair path value :: rest => do
    let entries ← current.entries.addDotted? value path
    sectionsFrom { current with entries } rest

/-- The section without the first key of its header. -/
def Section.below (part : Section) : Section := { part with header := part.header.tail }

/-- Whether a section starts an element of the array it belongs to. -/
def Section.startsElement (part : Section) : Bool := part.header.isEmpty && part.array

mutual

/-- Add sections to the entries of the table that their headers are relative to. `own` tells
whether the table had its own section before: it has one at most, and no array has. -/
def assemble : Nat → Bool → Entries → List Section → Option Entries
  | 0, _, _, _ => none
  | _, _, entries, [] => some entries
  | fuel + 1, own, entries, part :: rest =>
    match part.header with
    | [] =>
      if own || part.array then none
      else do
        let entries ← part.entries.foldlM (fun entries (key, value) => entries.add? key value) entries
        assemble fuel true entries rest
    | key :: path => do
      let (within, others) := (part :: rest).partition fun other => other.header.head? = some key
      let within := within.map Section.below
      let value ←
        if path.isEmpty && part.array then (elements fuel within).map Value.array
        else (assemble fuel false [] within).map (Value.table false)
      assemble fuel own (← entries.add? key value) others

/-- The elements of an array of tables. Each starts with a section of its own. -/
def elements : Nat → List Section → Option (List Value)
  | 0, _ => none
  | _, [] => some []
  | fuel + 1, part :: rest => do
    let (inside, others) := rest.span fun other => !other.startsElement
    let entries ← assemble fuel true part.entries inside
    some (.table false entries :: (← elements fuel others))

end

/-- Every nested call has fewer sections or shorter headers. -/
def assemblyFuel (parts : List Section) : Nat :=
  parts.foldl (fun total part => total + part.header.length + 2) 1

def read? (text : String) : Option Entries := do
  let lines ← lines? (← tokens? text)
  let parts ← sectionsFrom {} lines
  assemble (assemblyFuel parts) false [] parts

end WeatherRelay.Toml
