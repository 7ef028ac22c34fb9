import WeatherRelay.Binary.Basic

/-! The values of a TOML document. -/

set_option autoImplicit false

namespace WeatherRelay.Toml

inductive Value where
  /-- A place that was never filled. -/
  | nothing
  | text (value : String)
  | integer (value : Int)
  | float (value : Binary64)
  | bool (value : Bool)
  | array (items : List Value)
  /-- A table. One that dotted keys made may be extended by more of them. -/
  | table (dotted : Bool) (entries : List (String × Value))

instance : Inhabited Value := ⟨.nothing⟩

abbrev Entries := List (String × Value)

namespace Entries

def find? (entries : Entries) (key : String) : Option Value :=
  (List.find? (fun entry => entry.1 = key) entries).map Prod.snd

/-- Set the value of a key, in place if it has one. -/
def set (key : String) (value : Value) : Entries → Entries
  | [] => [(key, value)]
  | (held, old) :: rest =>
    if held = key then (key, value) :: rest else (held, old) :: set key value rest

def add? (entries : Entries) (key : String) (value : Value) : Option Entries :=
  if (entries.find? key).isSome then none else some (entries ++ [(key, value)])

/-- Add a value under a dotted key. The tables on the way are made, or were made by other dotted
keys. -/
def addDotted? (value : Value) : List String → Entries → Option Entries
  | [], _ => none
  | [key], entries => entries.add? key value
  | key :: rest, entries =>
    match entries.find? key with
    | none => do some (entries ++ [(key, .table true (← addDotted? value rest []))])
    | some (.table true inner) => do some (entries.set key (.table true (← addDotted? value rest inner)))
    | some _ => none

end Entries

end WeatherRelay.Toml
