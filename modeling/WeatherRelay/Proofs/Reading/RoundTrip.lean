import WeatherRelay.Proofs.Health.Reading
import WeatherRelay.Proofs.Json.Numerals
import WeatherRelay.Proofs.Reading.DerivedMetrics
import WeatherRelay.Proofs.Text.Utf8
import WeatherRelay.Proofs.Time.Stamp

/-! Readings read back from the JSON that is written of them.

A number that is not finite is written as null. That is an absent value for a field that may be
absent, and no value at all for the others.
-/

set_option autoImplicit false

namespace WeatherRelay

theorem Json.symbolsOfBytes_encode (text : String) :
    symbolsOfBytes (Text.Utf8.encode text) = symbolsOfText text := by
  have pieces := Text.Utf8.pieces_eq_scalars_iff.mpr (Text.Utf8.encode_eq_flatMap text)
  rw [symbolsOfBytes, pieces, List.map_map]
  rfl

/-- The numeral that a number is written as is read as that number again. -/
def Binary.ReadsBack (x : Binary32) : Prop :=
  (Json.read? (Json.symbolsOfText (Json.numberText x))).bind Json.Tree.toBinary32? = some x

instance (x : Binary32) : Decidable x.ReadsBack := inferInstanceAs (Decidable (_ = _))

namespace Json

variable {x : Binary32}

theorem toBinary32?_numberTree (readsBack : x.isFinite = true → x.ReadsBack) :
    (numberTree x).toBinary32? = if x.isFinite then some x else none := by
  cases finite : x.isFinite with
  | true =>
    have back := readsBack finite
    rw [Binary.ReadsBack, read?_of_readsWithin (readsWithin_numberText x)] at back
    exact back
  | false => cases x <;> first | rfl | cases finite

theorem toOption?_numberTree (readsBack : x.isFinite = true → x.ReadsBack) :
    (numberTree x).toOption? Tree.toBinary32? = some (if x.isFinite then some x else none) := by
  have read := toBinary32?_numberTree readsBack
  cases x with
  | nan | infinity => rfl
  | finite negative rank =>
    rw [Binary.isFinite, if_pos rfl] at read ⊢
    rw [numberTree] at read ⊢
    rw [Tree.toOption?, read]
    · rfl
    · rintro ⟨⟩

theorem mapM_numberTree {values : List Binary32}
    (readsBack : ∀ x ∈ values, x.isFinite = true → x.ReadsBack) :
    (values.map numberTree).mapM Tree.toBinary32? =
      if values.all Binary.isFinite then some values else none := by
  induction values with
  | nil => rfl
  | cons x values ih =>
    obtain ⟨here, others⟩ := List.forall_mem_cons.mp readsBack
    rw [List.map_cons, List.mapM_cons, toBinary32?_numberTree here, ih others]
    cases finite : x.isFinite <;> cases all : values.all Binary.isFinite <;> simp [finite, all]

end Json

namespace Reading

open Json (ReadsWithin)

/-- What a field of a reading holds. -/
inductive Content where
  | text (line : String)
  | number (value : Binary32)
  | optional (value : Option Binary32)
  | list (values : List Binary32)

namespace Content

def written : Content → String
  | .text line => Json.stringText line
  | .number value => Json.numberText value
  | .optional value => Json.optionText Json.numberText value
  | .list values => numbersText values

def tree : Content → Json.Tree
  | .text line => .string (Json.unitsOf line)
  | .number value => Json.numberTree value
  | .optional value => value.elim .null Json.numberTree
  | .list values => .array (values.map Json.numberTree)

theorem readsWithin_written (content : Content) : ReadsWithin content.written content.tree := by
  cases content with
  | text line => exact (Json.readsAs_stringText line).within
  | number value => exact Json.readsWithin_numberText value
  | optional value =>
    cases value with
    | none => exact Json.readsAs_null.within
    | some value => exact Json.readsWithin_numberText value
  | list values =>
    refine (Json.readsAs_arrayText ?_).within
    simp only [List.forall₂_map_left_iff, List.forall₂_map_right_iff, List.forall₂_same]
    exact fun value _ => Json.readsWithin_numberText value

end Content

/-- All fields, in the order in which they are written. -/
def contents (reading : Reading) : List (String × Content) :=
  [("timestamp", .text reading.timestamp.toStamp), ("station_name", .text reading.stationName),
    ("station_type", .text reading.stationType)] ++
  reading.numberFields.map (fun (name, value) => (name, .number value)) ++
  reading.optionalFields.map (fun (name, value) => (name, .optional value)) ++
  reading.listFields.map (fun (name, values) => (name, .list values))

theorem toJson_eq (reading : Reading) :
    reading.toJson = Json.objectText (reading.contents.map fun field => (field.1, field.2.written)) := by
  simp only [toJson, contents, List.map_append, List.map_map, List.map_cons, List.map_nil,
    Content.written, Function.comp_def]

theorem names_contents (reading : Reading) : reading.contents.map Prod.fst = fieldNames := rfl

def tree (reading : Reading) : Json.Tree :=
  .object (Json.members Prod.fst (fun field => field.2.tree) reading.contents)

theorem read?_toJson (reading : Reading) :
    Json.read? (Json.symbolsOfText reading.toJson) = some reading.tree := by
  rw [toJson_eq]
  exact Json.read?_of_readsAs
    (Json.readsAs_objectText Prod.fst fun field _ => field.2.readsWithin_written)

theorem fields?_tree (reading : Reading) :
    Json.fields? fieldNames reading.tree =
      some (reading.contents.map fun field => (field.1, field.2.tree)) := by
  refine Json.knownMembers?_members _ _ (fun field member => ?_) ?_
  · rw [← names_contents reading]
    exact List.mem_map_of_mem member
  · rw [names_contents]
    decide

/-- The numbers that every reading has to have, and those that are listed. -/
def requiredNumbers (reading : Reading) : List Binary32 :=
  reading.numberFields.map Prod.snd ++ reading.listFields.flatMap Prod.snd

def optionalNumbers (reading : Reading) : List Binary32 :=
  reading.optionalFields.flatMap fun field => field.2.toList

def numbers (reading : Reading) : List Binary32 :=
  reading.requiredNumbers ++ reading.optionalNumbers

/-- A reading without the values that are not finite, where they may be absent. -/
def withoutNonFinite (reading : Reading) : Reading :=
  { reading with
    batteryVoltage := reading.batteryVoltage.filter Binary.isFinite
    inTemp := reading.inTemp.filter Binary.isFinite
    inHumidity := reading.inHumidity.filter Binary.isFinite
    windSpeed10 := reading.windSpeed10.filter Binary.isFinite
    rainRate := reading.rainRate.filter Binary.isFinite
    stormRain := reading.stormRain.filter Binary.isFinite
    monthRain := reading.monthRain.filter Binary.isFinite
    yearRain := reading.yearRain.filter Binary.isFinite
    solarWatts := reading.solarWatts.filter Binary.isFinite
    uv := reading.uv.filter Binary.isFinite }

theorem bind_if {α β : Type} (p : Prop) [Decidable p] (x : α) (f : α → Option β) :
    (if p then some x else none).bind f = if p then f x else none := by
  split <;> rfl

section Fields

variable {reading : Reading}

/-- The fields as they are looked up. -/
def fieldTrees (reading : Reading) : Json.Fields :=
  reading.contents.map fun field => (field.1, field.2.tree)

theorem field?_fieldTrees {name : String} {content : Content}
    (member : (name, content) ∈ reading.contents) :
    reading.fieldTrees.field? name = some content.tree := by
  have distinct : (reading.contents.map Prod.fst).Nodup := by
    rw [names_contents]
    decide
  unfold fieldTrees Json.Fields.field?
  generalize reading.contents = fields at member distinct
  induction fields with
  | nil => cases member
  | cons first others ih =>
    obtain ⟨absent, rest⟩ := List.nodup_cons.mp distinct
    rcases List.mem_cons.mp member with rfl | later
    · simp
    · have other : first.1 ≠ name := fun same => absent (same ▸ List.mem_map_of_mem later)
      rw [List.map_cons, List.find?_cons_of_neg (by simpa using other), ih later rest]

theorem text_fieldTrees {name line : String} (member : (name, .text line) ∈ reading.contents) :
    ∃ tree, reading.fieldTrees.field? name = some tree ∧ tree.toText? = some line :=
  ⟨_, field?_fieldTrees member, Json.decodeString?_unitsOf line⟩

theorem timestamp_fieldTrees :
    reading.fieldTrees.required? "timestamp" (fun tree => tree.toText?.bind Instant.ofStamp?) =
      some reading.timestamp := by
  obtain ⟨tree, found, text⟩ := text_fieldTrees
    (by simp [contents] : ("timestamp", .text reading.timestamp.toStamp) ∈ reading.contents)
  rw [Json.Fields.required?, found, Option.bind_some, text, Option.bind_some,
    Instant.ofStamp?_toStamp]

theorem stationName_fieldTrees :
    reading.fieldTrees.required? "station_name" Json.Tree.toText? = some reading.stationName := by
  obtain ⟨tree, found, text⟩ := text_fieldTrees
    (by simp [contents] : ("station_name", .text reading.stationName) ∈ reading.contents)
  rw [Json.Fields.required?, found, Option.bind_some, text]

theorem stationType_fieldTrees :
    reading.fieldTrees.orDefault? "station_type" Json.Tree.toText? "" =
      some reading.stationType := by
  obtain ⟨tree, found, text⟩ := text_fieldTrees
    (by simp [contents] : ("station_type", .text reading.stationType) ∈ reading.contents)
  rw [Json.Fields.orDefault?, found]
  exact text

variable (readsBack : ∀ x ∈ reading.numbers, x.isFinite = true → x.ReadsBack)
include readsBack

theorem number_fieldTrees : ∀ field ∈ reading.numberFields,
    reading.fieldTrees.orDefault? field.1 Json.Tree.toBinary32? 0 =
      if field.2.isFinite then some field.2 else none := by
  rintro ⟨name, value⟩ member
  have found : reading.fieldTrees.field? name = some (Content.number value).tree :=
    field?_fieldTrees (by simp [contents, member])
  have here : value ∈ reading.numbers := by
    simp only [numbers, requiredNumbers, List.mem_append, List.mem_map]
    exact .inl (.inl ⟨_, member, rfl⟩)
  rw [Json.Fields.orDefault?, found]
  exact Json.toBinary32?_numberTree (readsBack value here)

theorem optional_fieldTrees : ∀ field ∈ reading.optionalFields,
    reading.fieldTrees.orDefault? field.1 (Json.Tree.toOption? Json.Tree.toBinary32?) none =
      some (field.2.filter Binary.isFinite) := by
  rintro ⟨name, value⟩ member
  have found : reading.fieldTrees.field? name = some (Content.optional value).tree :=
    field?_fieldTrees (by simp [contents, member])
  rw [Json.Fields.orDefault?, found]
  cases value with
  | none => rfl
  | some value =>
    have here : value ∈ reading.numbers := by
      simp only [numbers, optionalNumbers, List.mem_append, List.mem_flatMap]
      exact .inr ⟨_, member, by simp⟩
    rw [Option.filter_some]
    exact Json.toOption?_numberTree (readsBack value here)

theorem list_fieldTrees : ∀ field ∈ reading.listFields,
    reading.fieldTrees.orDefault? field.1 (Json.Tree.toList? Json.Tree.toBinary32?) [] =
      if field.2.all Binary.isFinite then some field.2 else none := by
  rintro ⟨name, values⟩ member
  have found : reading.fieldTrees.field? name = some (Content.list values).tree :=
    field?_fieldTrees (by simp [contents, member])
  rw [Json.Fields.orDefault?, found]
  refine Json.mapM_numberTree fun x listed => readsBack x ?_
  simp only [numbers, requiredNumbers, List.mem_append, List.mem_flatMap]
  exact .inl (.inr ⟨_, member, listed⟩)

theorem ofTree?_tree :
    ofTree? reading.tree =
      if reading.requiredNumbers.all Binary.isFinite then some reading.withoutNonFinite else none := by
  have numbers := number_fieldTrees readsBack
  have optionals := optional_fieldTrees readsBack
  have lists := list_fieldTrees readsBack
  simp only [numberFields, optionalFields, listFields, List.forall_mem_cons]
    at numbers optionals lists
  rw [ofTree?, fields?_tree, ← fieldTrees]
  -- Field by field from the front, so that no field is looked up more than once.
  simp only [↓Option.bind_eq_bind, ↓Option.bind_some, timestamp_fieldTrees, stationName_fieldTrees,
    stationType_fieldTrees, numbers, optionals, lists, ↓bind_if]
  simp only [← ite_and]
  refine if_congr ?_ rfl rfl
  simp only [requiredNumbers, numberFields, listFields, List.map_cons, List.map_nil,
    List.flatMap_cons, List.flatMap_nil, List.append_nil, List.all_append, List.all_cons,
    List.all_nil, Bool.and_true, Bool.and_eq_true, and_assoc]

end Fields

theorem withoutNonFinite_eq_self {reading : Reading}
    (finite : ∀ x ∈ reading.optionalNumbers, x.isFinite = true) :
    reading.withoutNonFinite = reading := by
  have kept : ∀ field ∈ reading.optionalFields, field.2.filter Binary.isFinite = field.2 := by
    rintro ⟨name, value⟩ member
    cases value with
    | none => rfl
    | some value =>
      have here : value ∈ reading.optionalNumbers := List.mem_flatMap.mpr ⟨_, member, by simp⟩
      rw [Option.filter_some, if_pos (finite value here)]
  simp only [optionalFields, List.forall_mem_cons] at kept
  simp only [withoutNonFinite, kept]

end Reading

namespace Ingest

theorem parse?_toJson {reading : Reading}
    (readsBack : ∀ x ∈ reading.numbers, x.isFinite = true → x.ReadsBack) :
    parse? (Text.Utf8.encode reading.toJson) =
      if reading.requiredNumbers.all Binary.isFinite then
        some reading.withoutNonFinite.withDerivedMetrics
      else none := by
  rw [parse?, Json.symbolsOfBytes_encode, Reading.read?_toJson, Option.bind_some,
    Reading.ofTree?_tree readsBack]
  split <;> rfl

theorem parse?_toJson_of_finite {reading : Reading}
    (readsBack : ∀ x ∈ reading.numbers, x.isFinite = true → x.ReadsBack)
    (finite : ∀ x ∈ reading.numbers, x.isFinite = true) :
    parse? (Text.Utf8.encode reading.toJson) = some reading.withDerivedMetrics := by
  rw [Reading.numbers, List.forall_mem_append] at finite
  obtain ⟨required, optional⟩ := finite
  rw [parse?_toJson readsBack, if_pos (List.all_eq_true.mpr required),
    Reading.withoutNonFinite_eq_self optional]

/-- A reading written as JSON is read back as itself. Values that are not finite are gone where they
may be absent, and make the text malformed elsewhere. What came in as a datagram already has its
derived metrics, so that it comes in as it is. -/
theorem readings_survive_json (reading : Reading)
    (readsBack : ∀ x ∈ reading.numbers, x.isFinite = true → x.ReadsBack) :
    parse? (Text.Utf8.encode reading.toJson) =
      (if reading.requiredNumbers.all Binary.isFinite then
        some reading.withoutNonFinite.withDerivedMetrics
      else none) ∧
    ∀ datagram, parse? datagram = some reading → reading.numbers.all Binary.isFinite = true →
      parse? (Text.Utf8.encode reading.toJson) = some reading := by
  refine ⟨parse?_toJson readsBack, fun datagram came finite => ?_⟩
  obtain ⟨raw, -, derived⟩ := Option.map_eq_some_iff.mp came
  rw [parse?_toJson_of_finite readsBack (List.all_eq_true.mp finite), ← derived,
    Reading.withDerivedMetrics_withDerivedMetrics]

/-- Half a second into a leap second, on a hot day whose heat index the station left unset, with a
value that may be absent and is not finite. The same in a list makes the text malformed. -/
theorem readings_survive_json_leap :
    let leap : Instant := ⟨1483228799, 1500000000, by decide, by decide, by decide, by decide⟩
    let reading : Reading := {
      timestamp := leap, stationName := "back\"yard\n", outTemp := 91.5, outHumidity := 60
      windSpeed := 12, inTemp := some 68.25, uv := some .nan, extraTemps := [55.1, -0.5] }
    let ingested : Reading := { reading with uv := none, heatIndex := 103.387955 }
    let broken : Reading := { reading with extraTemps := [55.1, .infinity false] }
    (∀ x ∈ reading.numbers ++ broken.numbers, x.isFinite = true → x.ReadsBack) ∧
    parse? (Text.Utf8.encode reading.toJson) = some ingested ∧
    parse? (Text.Utf8.encode ingested.toJson) = some ingested ∧
    parse? (Text.Utf8.encode broken.toJson) = none := by
  intro leap reading ingested broken
  have readsBack : ∀ x ∈ reading.numbers ++ broken.numbers, x.isFinite = true → x.ReadsBack := by
    decide +kernel
  obtain ⟨first, second⟩ := List.forall_mem_append.mp readsBack
  obtain ⟨read, -⟩ := readings_survive_json reading first
  obtain ⟨refused, -⟩ := readings_survive_json broken second
  have came : parse? (Text.Utf8.encode reading.toJson) = some ingested := by
    rw [read]
    decide +kernel
  obtain ⟨-, again⟩ := readings_survive_json ingested (by decide +kernel)
  refine ⟨readsBack, came, again _ came (by decide +kernel), ?_⟩
  rw [refused]
  decide +kernel

end Ingest

end WeatherRelay
