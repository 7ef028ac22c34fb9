/-! Finite maps as lists of entries, kept in increasing order of their keys. -/

set_option autoImplicit false

namespace WeatherRelay

structure Table (κ α : Type) where
  entries : List (κ × α)
  deriving DecidableEq, Repr

namespace Table

variable {κ α : Type}

def empty : Table κ α := ⟨[]⟩

instance : Inhabited (Table κ α) := ⟨empty⟩

def keys (table : Table κ α) : List κ := table.entries.map Prod.fst

section Find

variable [DecidableEq κ]

def findEntry (wanted : κ) : List (κ × α) → Option α
  | [] => none
  | (key, value) :: rest => if key = wanted then some value else findEntry wanted rest

def find? (table : Table κ α) (key : κ) : Option α := findEntry key table.entries

end Find

section Insert

variable [DecidableEq κ] [LT κ] [DecidableRel fun a b : κ => a < b]

def insertEntry (newKey : κ) (newValue : α) : List (κ × α) → List (κ × α)
  | [] => [(newKey, newValue)]
  | (key, value) :: rest =>
    if newKey = key then (newKey, newValue) :: rest
    else if newKey < key then (newKey, newValue) :: (key, value) :: rest
    else (key, value) :: insertEntry newKey newValue rest

def insert (table : Table κ α) (key : κ) (value : α) : Table κ α :=
  ⟨insertEntry key value table.entries⟩

theorem findEntry_insertEntry (key wanted : κ) (value : α) (entries : List (κ × α)) :
    findEntry wanted (insertEntry key value entries) =
      if key = wanted then some value else findEntry wanted entries := by
  induction entries with
  | nil => simp [insertEntry, findEntry]
  | cons entry rest ih =>
    obtain ⟨first, held⟩ := entry
    simp only [insertEntry]
    split
    · next same =>
      subst same
      simp only [findEntry]
      split <;> rfl
    · split
      · simp only [findEntry]
      · simp only [findEntry, ih]
        split
        · next found =>
          subst found
          rw [if_neg (by assumption)]
        · rfl

theorem find?_insert (table : Table κ α) (key wanted : κ) (value : α) :
    (table.insert key value).find? wanted =
      if key = wanted then some value else table.find? wanted :=
  findEntry_insertEntry key wanted value table.entries

end Insert

end Table

end WeatherRelay
