import WeatherRelay.Health.Reader
import WeatherRelay.Health.Registry
import WeatherRelay.Proofs.Json.RoundTrip
import WeatherRelay.Proofs.Time.Stamp

/-! Health records read back from the JSON that is written of them.

What is written of a record is an object of strings, and what is written of many is an object of
such objects in whatever order they come. Each of them is read as the tree it was written for, and
the tree gives the record again.
-/

set_option autoImplicit false

namespace WeatherRelay

section KnownMembers

open Json

variable {α : Type} (key : α → String) (tree : α → Tree) {names : List String}

theorem Json.knownMembers?_members {items : List α} (known : ∀ item ∈ items, key item ∈ names)
    (distinct : (items.map key).Nodup) :
    knownMembers? names (members key tree items) =
      some (items.map fun item => (key item, tree item)) := by
  induction items with
  | nil => rfl
  | cons first others ih =>
    obtain ⟨absent, rest⟩ := List.nodup_cons.mp distinct
    have later := ih (fun item member => known item (List.mem_cons_of_mem _ member)) rest
    have fresh : ((others.map fun item => (key item, tree item)).any fun field =>
        decide (field.1 = key first)) = false := by
      simp only [List.any_map, List.any_eq_false, Function.comp_apply, decide_eq_true_eq]
      intro item member same
      exact absent (same ▸ List.mem_map_of_mem member)
    have listed : names.contains (key first) = true :=
      List.contains_iff_mem.mpr (known first List.mem_cons_self)
    rw [members] at later
    simp only [members, List.map_cons, knownMembers?, decodeString?_unitsOf, later, listed, fresh,
      Option.bind_eq_bind, Option.bind_some, Bool.false_eq_true, if_true, if_false]

end KnownMembers

namespace HealthRecord

open Json (ReadsAs Blank)

/-- The fields that are written, all of them strings. -/
def fieldTexts (record : HealthRecord) : List (String × String) :=
  [("status", record.status.name), ("message", record.message)] ++
    record.error.toList.map (fun error => ("error", error)) ++
    [("timestamp", record.timestamp.toStamp)]

/-- The tree that a record is written for. -/
def tree (record : HealthRecord) : Json.Tree :=
  .object (Json.members Prod.fst (fun field => .string (Json.unitsOf field.2)) record.fieldTexts)

theorem jsonFields_eq (record : HealthRecord) :
    record.jsonFields = record.fieldTexts.map fun field => (field.1, Json.stringText field.2) := by
  simp only [jsonFields, fieldTexts, List.map_append, List.map_map]
  rfl

theorem readsAs_toPrettyJson (record : HealthRecord) {indent : String} (blank : Blank indent) :
    ReadsAs (record.toPrettyJson indent) record.tree := by
  rw [toPrettyJson, jsonFields_eq]
  exact Json.readsAs_prettyObjectText Prod.fst blank fun field _ => Json.readsAs_stringText field.2

theorem ofName?_name (status : HealthStatus) : HealthStatus.ofName? status.name = some status := by
  cases status <;> decide

theorem fields?_tree (record : HealthRecord) :
    Json.fields? fieldNames record.tree =
      some (record.fieldTexts.map fun field => (field.1, .string (Json.unitsOf field.2))) := by
  obtain ⟨status, message, error, timestamp⟩ := record
  refine Json.knownMembers?_members _ _ ?_ ?_
  · cases error <;> simp [fieldTexts, fieldNames]
  · cases error <;> simp [fieldTexts]

theorem ofTree?_tree (record : HealthRecord) : ofTree? record.tree = some record := by
  obtain ⟨status, message, error, timestamp⟩ := record
  rw [ofTree?, fields?_tree]
  cases error <;>
    simp [fieldTexts, Json.Fields.required?, Json.Fields.orDefault?, Json.Fields.field?,
      HealthStatus.ofTree?, Json.Tree.toText?, Json.Tree.toOption?, ofName?_name,
      Instant.ofStamp?_toStamp]

/-- What is written of many records, in the order in which they come. -/
def mapText (entries : List (String × HealthRecord)) : String :=
  Json.prettyObjectText "" (entries.map fun entry => (entry.1, entry.2.toPrettyJson "  "))

theorem mapM_members (entries : List (String × HealthRecord)) :
    ((Json.members Prod.fst (fun entry => entry.2.tree) entries).mapM fun (key, value) =>
      (Json.decodeString? key).bind fun key => (ofTree? value).bind fun record =>
        some (key, record)) = some entries := by
  induction entries with
  | nil => rfl
  | cons entry others ih =>
    rw [Json.members] at ih
    simp only [Json.members, List.map_cons, List.mapM_cons, ih, Json.decodeString?_unitsOf,
      ofTree?_tree, Option.bind_eq_bind, Option.bind_some, Option.pure_def]

/-- The records read back, whatever the order in which they were written. -/
theorem mapOfJson?_mapText (entries : List (String × HealthRecord)) :
    mapOfJson? (mapText entries) = some entries := by
  have blank : Blank "" := by decide
  have read := Json.read?_of_readsAs (Json.readsAs_prettyObjectText Prod.fst blank
    fun entry (_ : entry ∈ entries) => readsAs_toPrettyJson entry.2 (by decide : Blank "  "))
  rw [mapOfJson?, mapText, read]
  exact mapM_members entries

theorem mapText_inj {left right : List (String × HealthRecord)} :
    mapText left = mapText right ↔ left = right := by
  refine ⟨fun same => ?_, congrArg mapText⟩
  have read := mapOfJson?_mapText left
  rw [same, mapOfJson?_mapText] at read
  exact (Option.some.inj read).symm

end HealthRecord

theorem HealthRegistry.toPrettyJson_eq (registry : HealthRegistry) :
    registry.toPrettyJson = HealthRecord.mapText registry.snapshot := rfl

end WeatherRelay
