import Mathlib.Data.String.Basic
import WeatherRelay.Proofs.Station.NormalForm
import WeatherRelay.Proofs.Table.Increasing
import WeatherRelay.Proofs.Transmitter.Isolation
import WeatherRelay.ReportBackend

/-! The slots of a backend that reports: one for the name of every station that reports.

No reading adds or takes away a slot. Each of them holds the last reading of its own station, and
readings of other stations are told apart by the answer to their storing.
-/

set_option autoImplicit false

namespace WeatherRelay

namespace CurrentReadings

/-- Every slot goes by a name of its own. -/
def Apart (readings : CurrentReadings) : Prop := readings.slots.Increasing

theorem Apart.nodup_stations {readings : CurrentReadings} (apart : readings.Apart) :
    readings.stations.Nodup :=
  (Table.pairwise_keys apart).imp ne_of_lt

theorem mem_stations_iff {readings : CurrentReadings} {name : String} :
    name ∈ readings.stations ↔ (readings.slots.find? name).isSome = true :=
  Table.mem_keys_iff

/-- To begin with there is an empty slot for each of the names, however often it comes. -/
theorem slots_ofStations (names : List String) :
    (ofStations names).Apart ∧
      ∀ name, (ofStations names).slots.find? name = if name ∈ names then some none else none := by
  induction names using List.reverseRecOn with
  | nil => exact ⟨Table.increasing_empty, fun _ => rfl⟩
  | append_singleton earlier name ih =>
    obtain ⟨apart, slots⟩ := ih
    have last : (ofStations (earlier ++ [name])).slots =
        (ofStations earlier).slots.insert name none := by
      simp only [ofStations, List.foldl_append, List.foldl_cons, List.foldl_nil]
    refine ⟨?_, fun wanted => ?_⟩
    · unfold Apart
      rw [last]
      exact Table.increasing_insert apart name none
    · rw [last, Table.find?_insert, slots]
      by_cases same : name = wanted
      · simp [same]
      · simp [same, Ne.symm same]

theorem Apart.store {readings : CurrentReadings} (apart : readings.Apart) (reading : Reading) :
    (readings.store reading).2.Apart := by
  unfold CurrentReadings.store
  cases readings.slots.find? reading.stationName with
  | none => exact apart
  | some held => exact Table.increasing_insert apart _ _

theorem Apart.storeAll {readings : CurrentReadings} (apart : readings.Apart) (heard : List Reading) :
    (readings.storeAll heard).2.Apart := by
  induction heard generalizing readings with
  | nil => exact apart
  | cons reading rest ih => exact ih (apart.store reading)

theorem stations_storeAll {readings : CurrentReadings} (apart : readings.Apart)
    (heard : List Reading) : (readings.storeAll heard).2.stations = readings.stations :=
  Table.keys_eq_of_isSome (apart.storeAll heard) apart fun name => by
    rw [slot_storeAll, Option.isSome_map]

theorem stored_iff (readings : CurrentReadings) (reading : Reading) :
    (readings.store reading).1 = decide (reading.stationName ∈ readings.stations) := by
  unfold store
  cases slot : readings.slots.find? reading.stationName with
  | none => simp [mem_stations_iff, slot]
  | some held => simp [mem_stations_iff, slot]

/-- The answers tell which readings had a slot. -/
theorem answers_storeAll {readings : CurrentReadings} (apart : readings.Apart)
    (heard : List Reading) :
    (readings.storeAll heard).1 =
      heard.map fun reading => decide (reading.stationName ∈ readings.stations) := by
  induction heard generalizing readings with
  | nil => rfl
  | cons reading rest ih =>
    have kept : (readings.store reading).2.stations = readings.stations :=
      stations_storeAll apart [reading]
    rw [List.map_cons, ← stored_iff, ← kept, ← ih (apart.store reading)]
    rfl

theorem latest_storeAll {readings : CurrentReadings} (heard : List Reading) (name : String)
    (empty : ∀ held ∈ readings.slots.find? name, held = none) :
    (readings.storeAll heard).2.latest name =
      if name ∈ readings.stations then (readingsOf name heard).getLast? else none := by
  rw [latest, slot_storeAll]
  cases slot : readings.slots.find? name with
  | none => simp [mem_stations_iff, slot]
  | some held => simp [mem_stations_iff, slot, empty held slot]

end CurrentReadings

namespace ReportBackend

variable {entry : ReportingEntry} {entries : List StationEntry} {backend : ReportBackend}

/-- A backend is made of accepted stations, with a slot for the name of each. -/
theorem stations_of_ofEntries (built : ofEntries entry entries = .ok backend) :
    Station.AllAccepted (entries.filter StationEntry.reports) backend.stations ∧
      backend.readings = .ofStations (backend.stations.map Station.name) := by
  unfold ofEntries at built
  cases settings : ReportSettings.ofEntry entry with
  | error error =>
    rw [settings] at built
    cases built
  | ok settings' =>
    rw [settings] at built
    rcases Station.ofEntries_cases entries with ⟨stations, outcome, all⟩ | ⟨error, outcome, -⟩
    · rw [outcome] at built
      change ofStations settings' stations = _ at built
      unfold ofStations at built
      split at built
      · cases built
      · cases built
        exact ⟨all, rfl⟩
    · rw [outcome] at built
      cases built

theorem names_of_allAccepted {entries : List StationEntry} {stations : List Station}
    (all : Station.AllAccepted entries stations) :
    stations.map Station.name = entries.map StationEntry.name := by
  induction all with
  | nil => rfl
  | cons accepted _ ih =>
    obtain ⟨_, -, -, kept⟩ := Station.accepted_of_ofEntry accepted
    rw [List.map_cons, List.map_cons, ih, kept.name_eq]

/-- The slots of a backend are the names of the stations that report, each of them once, and stay so
whatever is stored. The answer to a storing tells whether the name of the reading has a slot, the
newest reading of a name with a slot is the last one that was stored under it, and no other slot is
changed by a storing. -/
theorem slots_keep_latest (built : ofEntries entry entries = .ok backend) :
    (∀ name, name ∈ backend.readings.stations ↔
      ∃ station ∈ entries, station.reports = true ∧ station.name = name) ∧
    backend.readings.stations.Nodup ∧
    (∀ station ∈ backend.stations, station.name ∈ backend.readings.stations) ∧
    ∀ heard,
      let answers := (backend.readings.storeAll heard).1
      let after := (backend.readings.storeAll heard).2
      after.stations = backend.readings.stations ∧
      answers = heard.map (fun reading =>
        decide (reading.stationName ∈ backend.readings.stations)) ∧
      (∀ name, after.latest name =
        if name ∈ backend.readings.stations then
          (CurrentReadings.readingsOf name heard).getLast?
        else none) ∧
      ∀ reading name, name ≠ reading.stationName →
        (after.store reading).2.slots.find? name = after.slots.find? name := by
  obtain ⟨all, slots⟩ := stations_of_ofEntries built
  have names := names_of_allAccepted all
  obtain ⟨apart, empty⟩ := CurrentReadings.slots_ofStations (backend.stations.map Station.name)
  rw [← slots] at apart empty
  have listed (name : String) : name ∈ backend.readings.stations ↔
      name ∈ backend.stations.map Station.name := by
    rw [CurrentReadings.mem_stations_iff, empty]
    exact Option.isSome_ite
  refine ⟨fun name => ?_, apart.nodup_stations, fun station member => ?_, fun heard =>
    ⟨CurrentReadings.stations_storeAll apart heard, CurrentReadings.answers_storeAll apart heard,
      fun name => CurrentReadings.latest_storeAll heard name ?_, fun reading name other => ?_⟩⟩
  · rw [listed, names]
    simp [and_assoc]
  · exact (listed _).mpr (List.mem_map_of_mem member)
  · rw [empty]
    split <;> simp
  · simp [CurrentReadings.slot_store, other.symm]

/-- Two stations of one name share a slot, and a station that does not report has none. -/
theorem slots_keep_latest_shared :
    let reports : ReportEntry := { callsign := "n0call-13", latitude := 49.5, longitude := -72.75 }
    let silent : ReportEntry := { reports with enabled := false }
    let station : Station := {
      name := "ridge", callsign := "N0CALL-13", passcode := 13023, latitude := 49.5
      longitude := -72.75, symbolTable := '/', symbolCode := '_', comment := none }
    let backend : ReportBackend := {
      settings := ⟨"example.org:14580", 15, 300, 90, 3, 10⟩
      stations := [station, { station with name := "backyard" }, station]
      readings := ⟨⟨[("backyard", none), ("ridge", none)]⟩⟩ }
    let warm : Reading := { timestamp := .onSecond 60, stationName := "ridge", outTemp := 70 }
    let heard : List Reading :=
      [{ warm with outTemp := 40 }, { warm with stationName := "garage" }, warm]
    ofEntries { server := " example.org:14580" }
        [⟨"ridge", some reports⟩, ⟨"garage", some silent⟩, ⟨"shed", none⟩,
          ⟨"backyard", some reports⟩, ⟨"ridge", some reports⟩] = .ok backend ∧
      (backend.readings.storeAll heard).1 = [true, false, true] ∧
      (backend.readings.storeAll heard).2.latest "ridge" = some warm ∧
      (backend.readings.storeAll heard).2.latest "garage" = none := by
  intro reports silent station backend warm heard
  have built : ofEntries { server := " example.org:14580" }
      [⟨"ridge", some reports⟩, ⟨"garage", some silent⟩, ⟨"shed", none⟩,
        ⟨"backyard", some reports⟩, ⟨"ridge", some reports⟩] = .ok backend := by decide +kernel
  obtain ⟨-, -, -, kept⟩ := slots_keep_latest built
  obtain ⟨-, answers, latest, -⟩ := kept heard
  refine ⟨built, ?_, ?_, ?_⟩
  · rw [answers]
    decide +kernel
  · rw [latest]
    decide +kernel
  · rw [latest]
    decide +kernel

end ReportBackend

end WeatherRelay
