import Mathlib.Data.String.Basic
import WeatherRelay.Proofs.Health.Reading
import WeatherRelay.Proofs.Table.Increasing

/-! Whole runs of updates of a health registry, one after the other.

Every update comes upon its file in a state of its own, so that writing may fail and succeed in any
order. What a run leaves in the memory depends on the records alone; the file only decides what an
update answers and what can be read afterwards.
-/

set_option autoImplicit false

namespace WeatherRelay

/-- An update, with the file as it comes upon it. -/
structure HealthUpdate where
  subsystem : String
  record : HealthRecord
  found : HealthFile

/-- The record of the last update of a subsystem. -/
def lastRecord? (updates : List HealthUpdate) (subsystem : String) : Option HealthRecord :=
  (updates.reverse.find? fun update => update.subsystem = subsystem).map HealthUpdate.record

theorem lastRecord?_concat (updates : List HealthUpdate) (update : HealthUpdate)
    (subsystem : String) :
    lastRecord? (updates ++ [update]) subsystem =
      if update.subsystem = subsystem then some update.record
      else lastRecord? updates subsystem := by
  unfold lastRecord?
  rw [List.reverse_concat, List.find?_cons]
  by_cases same : update.subsystem = subsystem <;> simp [same]

namespace HealthRegistry

def perform (registry : HealthRegistry) (update : HealthUpdate) : Attempt Unit × HealthRegistry :=
  { registry with file := update.found }.update update.subsystem update.record

/-- The registry after some updates, the first of which comes upon an empty one. -/
def run (updates : List HealthUpdate) : HealthRegistry :=
  updates.foldl (fun registry update => (registry.perform update).2) {}

theorem run_concat (updates : List HealthUpdate) (update : HealthUpdate) :
    run (updates ++ [update]) = ((run updates).perform update).2 := by
  simp only [run, List.foldl_append, List.foldl_cons, List.foldl_nil]

theorem records_perform (registry : HealthRegistry) (update : HealthUpdate) :
    (registry.perform update).2.records =
      registry.records.insert update.subsystem update.record := by
  obtain ⟨subsystem, record, found⟩ := update
  cases found <;> rfl

theorem get_perform (registry : HealthRegistry) (update : HealthUpdate) (subsystem : String) :
    (registry.perform update).2.get subsystem =
      if update.subsystem = subsystem then some update.record else registry.get subsystem := by
  rw [get, records_perform, Table.find?_insert, ← get]

/-- What an update answers and leaves in its file, by what it found there. -/
theorem perform_file (registry : HealthRegistry) (update : HealthUpdate) :
    let outcome := (registry.perform update).1
    let after := (registry.perform update).2
    match update.found with
    | .none => outcome = .ok () ∧ after.file = .none
    | .file _ => outcome = .ok () ∧ after.file = .file (some after.toPrettyJson)
    | .broken fault => outcome = .error (.failure (.io fault)) ∧ after.file = .broken fault := by
  obtain ⟨subsystem, record, found⟩ := update
  cases found <;> exact ⟨rfl, rfl⟩

/-- A registry holds the last record of every subsystem, and nothing else. -/
structure Remembers (registry : HealthRegistry) (updates : List HealthUpdate) : Prop where
  increasing : registry.records.Increasing
  latest : ∀ subsystem, registry.get subsystem = lastRecord? updates subsystem

theorem remembers_nil : Remembers {} [] where
  increasing := Table.increasing_empty
  latest _ := rfl

theorem Remembers.perform {registry : HealthRegistry} {updates : List HealthUpdate}
    (remembers : Remembers registry updates) (update : HealthUpdate) :
    Remembers (registry.perform update).2 (updates ++ [update]) where
  increasing := by
    rw [records_perform]
    exact Table.increasing_insert remembers.increasing _ _
  latest subsystem := by
    rw [get_perform, lastRecord?_concat, remembers.latest]

theorem remembers_run (updates : List HealthUpdate) : Remembers (run updates) updates := by
  induction updates using List.reverseRecOn with
  | nil => exact remembers_nil
  | append_singleton updates update ih =>
    rw [run_concat]
    exact ih.perform update

theorem Remembers.mem_snapshot {registry : HealthRegistry} {updates : List HealthUpdate}
    (remembers : Remembers registry updates) (subsystem : String) (record : HealthRecord) :
    (subsystem, record) ∈ registry.snapshot ↔ lastRecord? updates subsystem = some record := by
  rw [← remembers.latest, snapshot, get, Table.find?_eq_some_iff remembers.increasing]

theorem Remembers.nodup_snapshot {registry : HealthRegistry} {updates : List HealthUpdate}
    (remembers : Remembers registry updates) : (registry.snapshot.map Prod.fst).Nodup :=
  List.pairwise_map.mpr (remembers.increasing.imp ne_of_lt)

/-- What holds after any updates, and what the next one does whatever its file is like: the record
is the new one even where it cannot be written, and where it can be written all of the records can
be read from the file. -/
theorem run_then_perform (updates : List HealthUpdate) (update : HealthUpdate) :
    let registry := run updates
    let outcome := (registry.perform update).1
    let after := (registry.perform update).2
    (∀ subsystem, registry.get subsystem = lastRecord? updates subsystem) ∧
    (∀ subsystem record,
      (subsystem, record) ∈ registry.snapshot ↔ lastRecord? updates subsystem = some record) ∧
    (registry.snapshot.map Prod.fst).Nodup ∧
    (∀ subsystem, after.get subsystem =
      if subsystem = update.subsystem then some update.record else registry.get subsystem) ∧
    after = run (updates ++ [update]) ∧
    match update.found with
    | .none => outcome = .ok () ∧ after.file = .none
    | .file _ => outcome = .ok () ∧ ∃ text, after.file = .file (some text) ∧
        HealthRecord.mapOfJson? text = some after.snapshot
    | .broken fault => outcome = .error (.failure (.io fault)) ∧ after.file = .broken fault := by
  intro registry outcome after
  have remembers : Remembers registry updates := remembers_run updates
  have file := perform_file registry update
  refine ⟨remembers.latest, remembers.mem_snapshot, remembers.nodup_snapshot, ?_,
    (run_concat updates update).symm, ?_⟩
  · intro subsystem
    simp only [after, get_perform, eq_comm]
  · cases found : update.found with
    | none => simpa only [found] using file
    | broken fault => simpa only [found] using file
    | file before =>
      simp only [found] at file
      refine ⟨file.1, after.toPrettyJson, file.2, ?_⟩
      rw [toPrettyJson_eq, HealthRecord.mapOfJson?_mapText]

end HealthRegistry

end WeatherRelay
