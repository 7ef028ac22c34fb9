import Mathlib.Data.List.Sort
import Mathlib.Order.Lattice
import WeatherRelay.Table

/-! Tables with their keys in increasing order, and what is left of one above a bound. -/

set_option autoImplicit false

namespace WeatherRelay.Table

variable {κ α : Type}

/-- The keys stand in increasing order, each of them once. -/
def Increasing [LT κ] (table : Table κ α) : Prop :=
  table.entries.Pairwise fun left right => left.1 < right.1

/-- The entries from the first one on that is not below a bound. -/
def dropBelow [LT κ] [DecidableRel fun a b : κ => a < b] (table : Table κ α) (bound : κ) :
    Table κ α :=
  ⟨table.entries.dropWhile fun entry => entry.1 < bound⟩

section Entries

variable [LinearOrder κ]

theorem mem_insertEntry {key : κ} {value : α} {entries : List (κ × α)} {entry : κ × α}
    (member : entry ∈ insertEntry key value entries) : entry = (key, value) ∨ entry ∈ entries := by
  induction entries with
  | nil => simpa [insertEntry] using member
  | cons first rest ih =>
    obtain ⟨firstKey, held⟩ := first
    simp only [insertEntry] at member
    split at member
    · rcases List.mem_cons.mp member with same | later
      · exact .inl same
      · exact .inr (List.mem_cons_of_mem _ later)
    · split at member
      · exact List.mem_cons.mp member
      · rcases List.mem_cons.mp member with same | later
        · exact .inr (same ▸ List.mem_cons_self)
        · exact (ih later).imp_right (List.mem_cons_of_mem _)

theorem pairwise_insertEntry (key : κ) (value : α) {entries : List (κ × α)}
    (increasing : entries.Pairwise fun left right => left.1 < right.1) :
    (insertEntry key value entries).Pairwise fun left right => left.1 < right.1 := by
  induction entries with
  | nil => simp [insertEntry]
  | cons first rest ih =>
    obtain ⟨firstKey, held⟩ := first
    obtain ⟨above, restIncreasing⟩ := List.pairwise_cons.mp increasing
    simp only [insertEntry]
    split
    · next same =>
      subst same
      exact List.pairwise_cons.mpr ⟨above, restIncreasing⟩
    · next other =>
      split
      · next before =>
        refine List.pairwise_cons.mpr ⟨?_, increasing⟩
        intro entry member
        rcases List.mem_cons.mp member with rfl | later
        · exact before
        · exact lt_trans before (above entry later)
      · next notBefore =>
        refine List.pairwise_cons.mpr ⟨?_, ih restIncreasing⟩
        intro entry member
        rcases mem_insertEntry member with rfl | later
        · exact lt_of_le_of_ne (le_of_not_gt notBefore) (Ne.symm other)
        · exact above entry later

theorem findEntry_eq_some_iff {entries : List (κ × α)}
    (increasing : entries.Pairwise fun left right => left.1 < right.1) {key : κ} {value : α} :
    findEntry key entries = some value ↔ (key, value) ∈ entries := by
  induction entries with
  | nil => simp [findEntry]
  | cons first rest ih =>
    obtain ⟨firstKey, held⟩ := first
    obtain ⟨above, restIncreasing⟩ := List.pairwise_cons.mp increasing
    simp only [findEntry]
    split
    · next same =>
      subst same
      have absent : (firstKey, value) ∉ rest := fun member =>
        lt_irrefl firstKey (above (firstKey, value) member)
      simp only [Option.some.injEq, List.mem_cons, Prod.mk.injEq, true_and, absent, or_false]
      exact eq_comm
    · next other =>
      simp only [ih restIncreasing, List.mem_cons, Prod.mk.injEq, Ne.symm other, false_and,
        false_or]

theorem findEntry_dropWhile {entries : List (κ × α)} {bound key : κ} (reached : bound ≤ key) :
    findEntry key (entries.dropWhile fun entry => entry.1 < bound) = findEntry key entries := by
  induction entries with
  | nil => rfl
  | cons first rest ih =>
    obtain ⟨firstKey, held⟩ := first
    by_cases below : firstKey < bound
    · have other : firstKey ≠ key := fun same => absurd reached (not_le_of_gt (same ▸ below))
      simp only [List.dropWhile_cons, below, decide_true, if_true, findEntry, if_neg other, ih]
    · simp only [List.dropWhile_cons, below, decide_false, Bool.false_eq_true, if_false]

end Entries

variable [LinearOrder κ]

theorem increasing_empty : (empty : Table κ α).Increasing := List.Pairwise.nil

theorem increasing_insert {table : Table κ α} (increasing : table.Increasing) (key : κ)
    (value : α) : (table.insert key value).Increasing :=
  pairwise_insertEntry key value increasing

theorem mem_entries_insert {table : Table κ α} {key : κ} {value : α} {entry : κ × α}
    (member : entry ∈ (table.insert key value).entries) :
    entry = (key, value) ∨ entry ∈ table.entries :=
  mem_insertEntry member

theorem find?_eq_some_iff {table : Table κ α} (increasing : table.Increasing) {key : κ}
    {value : α} : table.find? key = some value ↔ (key, value) ∈ table.entries :=
  findEntry_eq_some_iff increasing

theorem mem_entries_dropBelow {table : Table κ α} {bound : κ} {entry : κ × α}
    (member : entry ∈ (table.dropBelow bound).entries) : entry ∈ table.entries :=
  (List.dropWhile_sublist _).mem member

theorem increasing_dropBelow {table : Table κ α} (increasing : table.Increasing) (bound : κ) :
    (table.dropBelow bound).Increasing :=
  List.Pairwise.sublist (List.dropWhile_sublist _) increasing

theorem find?_dropBelow (table : Table κ α) {bound key : κ} (reached : bound ≤ key) :
    (table.dropBelow bound).find? key = table.find? key :=
  findEntry_dropWhile reached

-- Behind the first entry that is not below the bound there is none below it either.
theorem le_of_mem_dropBelow {table : Table κ α} (increasing : table.Increasing) {bound : κ}
    {entry : κ × α} (member : entry ∈ (table.dropBelow bound).entries) : bound ≤ entry.1 := by
  have left := increasing_dropBelow increasing bound
  unfold Increasing at left
  cases dropped : (table.dropBelow bound).entries with
  | nil => simp [dropped] at member
  | cons first rest =>
    have reached : bound ≤ first.1 := by
      have remaining : (table.entries.dropWhile fun entry => decide (entry.1 < bound)) =
          first :: rest := dropped
      have stopped := List.head?_dropWhile_not (fun entry : κ × α => decide (entry.1 < bound))
        table.entries
      rw [remaining] at stopped
      simpa using stopped
    rw [dropped] at left member
    rcases List.mem_cons.mp member with rfl | later
    · exact reached
    · exact le_trans reached (le_of_lt ((List.pairwise_cons.mp left).1 entry later))

theorem find?_dropBelow_of_lt {table : Table κ α} (increasing : table.Increasing) {bound key : κ}
    (below : key < bound) : (table.dropBelow bound).find? key = none := by
  cases found : (table.dropBelow bound).find? key with
  | none => rfl
  | some value =>
    have member := (find?_eq_some_iff (increasing_dropBelow increasing bound)).mp found
    exact absurd (le_of_mem_dropBelow increasing member) (not_le_of_gt below)

theorem mem_keys_iff {table : Table κ α} {key : κ} :
    key ∈ table.keys ↔ (table.find? key).isSome = true := by
  unfold keys find?
  induction table.entries with
  | nil => simp [findEntry]
  | cons entry rest ih =>
    obtain ⟨first, held⟩ := entry
    by_cases same : first = key
    · simp [findEntry, same]
    · rw [List.map_cons, List.mem_cons, ih, findEntry, if_neg same]
      simp [Ne.symm same]

theorem pairwise_keys {table : Table κ α} (increasing : table.Increasing) :
    table.keys.Pairwise (· < ·) := List.pairwise_map.mpr increasing

/-- The keys are known by what is found. -/
theorem keys_eq_of_isSome {left right : Table κ α} (increasing : left.Increasing)
    (increasing' : right.Increasing)
    (same : ∀ key, (left.find? key).isSome = (right.find? key).isSome) : left.keys = right.keys :=
  (pairwise_keys increasing).eq_of_mem_iff (pairwise_keys increasing')
    fun key => by rw [mem_keys_iff, mem_keys_iff, same]

end WeatherRelay.Table
