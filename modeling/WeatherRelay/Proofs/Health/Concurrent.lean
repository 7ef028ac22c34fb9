import WeatherRelay.Proofs.Health.Reading

/-! Updates of one health registry at the same time.

Each of them takes two steps: it enters its record and prepares the text of all records while it has
the registry to itself, and it writes that text later. Records are kept in the order of the first
steps, and the file in the order of the second ones. The file is left with the records of the moment
at which whoever wrote last had entered, which need not be the latest.
-/

set_option autoImplicit false

namespace WeatherRelay

inductive UpdateProgress where
  | waiting
  /-- The record is entered, and this text is to be written. -/
  | writing (text : String)
  | returned (outcome : Attempt Unit)

structure HealthCall where
  subsystem : String
  record : HealthRecord
  progress : UpdateProgress := .waiting

/-- A registry with all the calls that update it. -/
structure SharedHealth where
  registry : HealthRegistry
  calls : List HealthCall

namespace SharedHealth

/-- The steps of the calls, which go by their position. -/
inductive Event where
  | entered (position : Nat)
  | wrote (position : Nat)
  deriving DecidableEq

def Event.entrant? : Event → Option Nat
  | entered position => some position
  | wrote _ => none

def Event.writer? : Event → Option Nat
  | entered _ => none
  | wrote position => some position

inductive Step : SharedHealth → Event → SharedHealth → Prop where
  | entered {registry later : HealthRegistry} {calls : List HealthCall} {position : Nat}
      {call : HealthCall} :
      calls[position]? = some call → call.progress = .waiting →
      registry.enter call.subsystem call.record = later →
      Step ⟨registry, calls⟩ (.entered position)
        ⟨later, calls.set position { call with progress := .writing later.toPrettyJson }⟩
  | wrote {registry later : HealthRegistry} {calls : List HealthCall} {position : Nat}
      {call : HealthCall} {text : String} {outcome : Attempt Unit} :
      calls[position]? = some call → call.progress = .writing text →
      registry.write text = (outcome, later) →
      Step ⟨registry, calls⟩ (.wrote position)
        ⟨later, calls.set position { call with progress := .returned outcome }⟩

/-- Steps one after the other, in whatever order the calls come to take them. -/
inductive Runs (start : SharedHealth) : List Event → SharedHealth → Prop where
  | empty : Runs start [] start
  | next {trace : List Event} {state after : SharedHealth} {event : Event} :
      Runs start trace state → Step state event after → Runs start (trace ++ [event]) after

/-- All calls before their first step. -/
def start (registry : HealthRegistry) (requests : List (String × HealthRecord)) : SharedHealth :=
  ⟨registry, requests.map fun request => ⟨request.1, request.2, .waiting⟩⟩

def entrants (trace : List Event) : List Nat := trace.filterMap Event.entrant?

/-- Who wrote last. -/
def lastWriter? (trace : List Event) : Option Nat := (trace.filterMap Event.writer?).getLast?

section Invariant

variable (registry : HealthRegistry) (requests : List (String × HealthRecord))

/-- The records once these requests are entered, in this order. -/
def enteredRecords (order : List Nat) : Table String HealthRecord :=
  (order.filterMap (requests[·]?)).foldl (fun records request => records.insert request.1 request.2)
    registry.records

/-- A text shows the records just as a call has entered its own. -/
def PreparedBy (trace : List Event) (position : Nat) (text : String) : Prop :=
  ∃ earlier later, trace = earlier ++ .entered position :: later ∧
    text = HealthRecord.mapText
      (enteredRecords registry requests (entrants earlier ++ [position])).entries

/-- What is known of a call from how far it is. -/
def Settled (trace : List Event) (position : Nat) : UpdateProgress → Prop
  | .waiting => True
  | .writing text => PreparedBy registry requests trace position text
  | .returned outcome => outcome = .ok () ∧ .wrote position ∈ trace

/-- The calls make the requests, and each of them is settled. -/
def Accounted (trace : List Event) (calls : List HealthCall) : Prop :=
  ∀ position call, calls[position]? = some call →
    requests[position]? = some (call.subsystem, call.record) ∧
      Settled registry requests trace position call.progress

/-- What holds of a registry with a file that can be written, whatever its calls have done. -/
structure Tracked (trace : List Event) (state : SharedHealth) : Prop where
  records : state.registry.records = enteredRecords registry requests (entrants trace)
  calls : Accounted registry requests trace state.calls
  file : ∃ text, state.registry.file = .file text ∧
    match lastWriter? trace with
    | none => registry.file = .file text
    | some writer => ∃ written, text = some written ∧
        PreparedBy registry requests trace writer written

variable {registry requests} {trace : List Event} {position : Nat}

theorem entrants_concat (trace : List Event) (event : Event) :
    entrants (trace ++ [event]) = entrants trace ++ event.entrant?.toList := by
  cases event <;> simp [entrants, Event.entrant?]

theorem lastWriter?_entered (trace : List Event) (position : Nat) :
    lastWriter? (trace ++ [.entered position]) = lastWriter? trace := by
  simp [lastWriter?, Event.writer?]

theorem lastWriter?_wrote (trace : List Event) (position : Nat) :
    lastWriter? (trace ++ [.wrote position]) = some position := by
  simp [lastWriter?, Event.writer?]

theorem enteredRecords_concat {order : List Nat} {request : String × HealthRecord}
    (found : requests[position]? = some request) :
    enteredRecords registry requests (order ++ [position]) =
      (enteredRecords registry requests order).insert request.1 request.2 := by
  simp [enteredRecords, found]

theorem PreparedBy.concat {text : String}
    (prepared : PreparedBy registry requests trace position text) (event : Event) :
    PreparedBy registry requests (trace ++ [event]) position text := by
  obtain ⟨earlier, later, rfl, shown⟩ := prepared
  exact ⟨earlier, later ++ [event], by simp, shown⟩

theorem Settled.concat {progress : UpdateProgress}
    (settled : Settled registry requests trace position progress) (event : Event) :
    Settled registry requests (trace ++ [event]) position progress := by
  cases progress with
  | waiting => trivial
  | writing text => exact PreparedBy.concat settled event
  | returned outcome => exact ⟨settled.1, List.mem_append_left _ settled.2⟩

theorem Accounted.set {calls : List HealthCall} {call : HealthCall} {event : Event}
    {progress : UpdateProgress} (accounted : Accounted registry requests trace calls)
    (found : calls[position]? = some call)
    (settled : Settled registry requests (trace ++ [event]) position progress) :
    Accounted registry requests (trace ++ [event])
      (calls.set position { call with progress := progress }) := by
  intro other changed foundOther
  by_cases same : position = other
  · subst same
    have inside := (List.getElem?_eq_some_iff.mp found).1
    rw [List.getElem?_set_self inside, Option.some.injEq] at foundOther
    subst foundOther
    exact ⟨(accounted position call found).1, settled⟩
  · rw [List.getElem?_set_ne same] at foundOther
    obtain ⟨requested, before⟩ := accounted other changed foundOther
    exact ⟨requested, before.concat event⟩

theorem tracked_start {before : Option String} (persisted : registry.file = .file before) :
    Tracked registry requests [] (start registry requests) where
  records := rfl
  calls position call found := by
    simp only [start, List.getElem?_map, Option.map_eq_some_iff] at found
    obtain ⟨request, requested, rfl⟩ := found
    exact ⟨requested, trivial⟩
  file := ⟨before, persisted, persisted⟩

theorem Tracked.step {state after : SharedHealth} {event : Event}
    (tracked : Tracked registry requests trace state) (step : Step state event after) :
    Tracked registry requests (trace ++ [event]) after := by
  obtain ⟨text, file, content⟩ := tracked.file
  cases step with
  | @entered current later calls position call found waiting entered =>
    obtain ⟨requested, -⟩ := tracked.calls position call found
    have records : later.records =
        enteredRecords registry requests (entrants trace ++ [position]) := by
      rw [enteredRecords_concat requested, ← tracked.records, ← entered]
      rfl
    have prepared : PreparedBy registry requests (trace ++ [.entered position]) position
        later.toPrettyJson := by
      refine ⟨trace, [], rfl, ?_⟩
      rw [HealthRegistry.toPrettyJson_eq, HealthRegistry.snapshot, records]
    refine ⟨?_, tracked.calls.set found prepared, text, ?_, ?_⟩
    · rw [records, entrants_concat]
      rfl
    · rw [← file, ← entered]
      rfl
    · rw [lastWriter?_entered]
      split at content
      · exact content
      · obtain ⟨shown, rfl, before⟩ := content
        exact ⟨shown, rfl, before.concat _⟩
  | @wrote current later calls position call prepared outcome found writing written =>
    obtain ⟨-, settled⟩ := tracked.calls position call found
    rw [writing] at settled
    have answer : (.ok (), { current with file := .file (some prepared) }) = (outcome, later) := by
      rw [← written, HealthRegistry.write, file]
    obtain ⟨rfl, rfl⟩ := Prod.mk.inj answer
    have here : Event.wrote position ∈ trace ++ [.wrote position] := List.mem_concat_self
    refine ⟨?_, tracked.calls.set found ⟨rfl, here⟩, some prepared, rfl, ?_⟩
    · rw [entrants_concat, Event.entrant?, Option.toList_none, List.append_nil]
      exact tracked.records
    · rw [lastWriter?_wrote]
      exact ⟨prepared, rfl, settled.concat _⟩

theorem tracked_runs {before : Option String} (persisted : registry.file = .file before)
    {state : SharedHealth} (runs : Runs (start registry requests) trace state) :
    Tracked registry requests trace state := by
  induction runs with
  | empty => exact tracked_start persisted
  | next _ step ih => exact ih.step step

theorem lastWriter?_ne_none (wrote : Event.wrote position ∈ trace) : lastWriter? trace ≠ none := by
  have writer : position ∈ trace.filterMap Event.writer? :=
    List.mem_filterMap.mpr ⟨_, wrote, rfl⟩
  rw [lastWriter?, Ne, List.getLast?_eq_none_iff]
  exact List.ne_nil_of_mem writer

/-- The memory has all records in the order in which the calls entered, and no call that returned
has failed. The file is as it was until a call has returned. From then on it has the records of the
moment at which whoever wrote last had entered, and is up to date only if they are still the same. -/
theorem runs_file {before : Option String} (persisted : registry.file = .file before)
    {state : SharedHealth} (runs : Runs (start registry requests) trace state) :
    state.registry.records = enteredRecords registry requests (entrants trace) ∧
    (∀ call ∈ state.calls, ∀ outcome, call.progress = .returned outcome → outcome = .ok ()) ∧
    match lastWriter? trace with
    | none => state.registry.file = registry.file ∧
        ∀ call ∈ state.calls, ∀ outcome, call.progress ≠ .returned outcome
    | some writer => ∃ earlier later, trace = earlier ++ .entered writer :: later ∧
        let shown := (enteredRecords registry requests (entrants earlier ++ [writer])).entries
        state.registry.file = .file (some (HealthRecord.mapText shown)) ∧
        HealthRecord.mapOfJson? (HealthRecord.mapText shown) = some shown ∧
        (state.registry.file = .file (some state.registry.toPrettyJson) ↔
          shown = state.registry.snapshot) := by
  have tracked := tracked_runs persisted runs
  obtain ⟨text, file, content⟩ := tracked.file
  have returned : ∀ call ∈ state.calls, ∀ outcome, call.progress = .returned outcome →
      outcome = .ok () ∧ lastWriter? trace ≠ none := by
    intro call member outcome progress
    obtain ⟨position, found⟩ := List.getElem?_of_mem member
    have settled := (tracked.calls position call found).2
    rw [progress] at settled
    exact ⟨settled.1, lastWriter?_ne_none settled.2⟩
  refine ⟨tracked.records, fun call member outcome progress =>
    (returned call member outcome progress).1, ?_⟩
  cases wrote : lastWriter? trace with
  | none =>
    rw [wrote] at content
    refine ⟨file.trans content.symm, fun call member outcome progress => ?_⟩
    exact (returned call member outcome progress).2 wrote
  | some writer =>
    rw [wrote] at content
    obtain ⟨written, rfl, earlier, later, same, rfl⟩ := content
    refine ⟨earlier, later, same, file, HealthRecord.mapOfJson?_mapText _, ?_⟩
    rw [file, HealthRegistry.toPrettyJson_eq, HealthFile.file.injEq, Option.some.injEq,
      HealthRecord.mapText_inj]

end Invariant

def loginFailed : HealthRecord := ⟨.unhealthy, "login failed", some "timed out", .epoch⟩

def loginWorked : HealthRecord := ⟨.healthy, "login ok", none, .epoch⟩

/-- Two calls that write in the order in which they entered. -/
theorem runs_file_in_order :
    let requests := [("aprs", loginFailed), ("aprs", loginWorked)]
    ∃ state, Runs (start { file := .file none } requests)
        [.entered 0, .entered 1, .wrote 0, .wrote 1] state ∧
      state.registry.file = .file (some state.registry.toPrettyJson) := by
  intro requests
  have first : Runs (start { file := .file none } requests) [.entered 0] _ :=
    Runs.empty.next (.entered rfl rfl rfl)
  have second : Runs (start { file := .file none } requests) [.entered 0, .entered 1] _ :=
    first.next (.entered rfl rfl rfl)
  have third : Runs (start { file := .file none } requests) [.entered 0, .entered 1, .wrote 0] _ :=
    second.next (.wrote rfl rfl rfl)
  have fourth : Runs (start { file := .file none } requests)
      [.entered 0, .entered 1, .wrote 0, .wrote 1] _ := third.next (.wrote rfl rfl rfl)
  refine ⟨_, fourth, ?_⟩
  obtain ⟨-, -, earlier, later, same, -, -, current⟩ := runs_file rfl fourth
  change [Event.entered 0] ++ .entered 1 :: [.wrote 0, .wrote 1] = _ at same
  obtain ⟨rfl, -, -⟩ := (List.append_cons_inj_of_notMem (by decide) (by decide)).mp same
  exact current.mpr rfl

/-- Two calls for one subsystem enter in turn and write the other way round. Both succeed, and the
file keeps the record that was replaced. -/
theorem overtaken_call_leaves_stale_file :
    let requests := [("aprs", loginFailed), ("aprs", loginWorked)]
    ∃ state, Runs (start { file := .file none } requests)
        [.entered 0, .entered 1, .wrote 1, .wrote 0] state ∧
      state.calls.map HealthCall.progress = [.returned (.ok ()), .returned (.ok ())] ∧
      state.registry.snapshot = [("aprs", loginWorked)] ∧
      (∃ text, state.registry.file = .file (some text) ∧
        HealthRecord.mapOfJson? text = some [("aprs", loginFailed)]) ∧
      state.registry.file ≠ .file (some state.registry.toPrettyJson) := by
  intro requests
  have first : Runs (start { file := .file none } requests) [.entered 0] _ :=
    Runs.empty.next (.entered rfl rfl rfl)
  have second : Runs (start { file := .file none } requests) [.entered 0, .entered 1] _ :=
    first.next (.entered rfl rfl rfl)
  have third : Runs (start { file := .file none } requests) [.entered 0, .entered 1, .wrote 1] _ :=
    second.next (.wrote rfl rfl rfl)
  refine ⟨_, third.next (.wrote rfl rfl rfl), rfl, rfl,
    ⟨_, rfl, HealthRecord.mapOfJson?_mapText _⟩, ?_⟩
  intro same
  have texts := Option.some.inj (HealthFile.file.inj same)
  rw [HealthRegistry.toPrettyJson_eq, HealthRegistry.toPrettyJson_eq, HealthRecord.mapText_inj]
    at texts
  exact absurd texts (by decide)

end SharedHealth

end WeatherRelay
