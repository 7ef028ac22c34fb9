import WeatherRelay.Proofs.Shutdown.Bridges

/-! A tree of signals is safe to shut down, in whatever order its parts get to act.

Shutdowns last and go down the tree only. Completion waits for all handles, so that it waits for the
bridges below and above a signal to have done their work.
-/

set_option autoImplicit false

namespace WeatherRelay.Shutdown

open Relation (ReflTransGen)

/-! ### Why a signal is triggered -/

/-- Somebody triggered the signal, and not a bridge. -/
def TriggeredIn (trace : List Event) (id : SignalId) : Prop :=
  .triggered id ∈ trace ∨ ∃ handle, .triggeredBy handle id ∈ trace

theorem TriggeredIn.mono {trace longer : List Event} {id : SignalId} (told : TriggeredIn trace id)
    (subset : trace ⊆ longer) : TriggeredIn longer id := by
  rcases told with told | ⟨handle, told⟩
  · exact .inl (subset told)
  · exact .inr ⟨handle, subset told⟩

section Cause

variable {tree later : Tree} {event : Event} {id child parent : SignalId}

theorem Tree.NestedIn.frame (nested : tree.NestedIn child parent) (sound : Sound tree)
    (extended : Extends tree later) : later.NestedIn child parent := by
  obtain ⟨bridge, among, rfl, rfl⟩ := nested
  obtain ⟨index, found⟩ := List.mem_iff_getElem?.mp among
  have works := sound.works found
  obtain ⟨waiting, found⟩ := extended.bridges found
  exact ⟨_, List.mem_of_getElem? found, extended.handleSignal (works.known (.inr rfl)),
    extended.handleSignal (works.known (.inl rfl))⟩

theorem Tree.triggered_trigger {other : SignalId}
    (after : ((tree.trigger other).signal id).triggered = true) :
    (tree.signal id).triggered = true ∨ other = id := by
  change ((tree.changeSignal other _).signal id).triggered = true at after
  rw [Tree.signal_changeSignal] at after
  split at after
  · next changed => exact .inr changed.1
  · exact .inl after

theorem Tree.triggered_changeSignal {other : SignalId} {change : Signal → Signal}
    (after : ((tree.changeSignal other change).signal id).triggered = true)
    (same : ∀ signal, (change signal).triggered = signal.triggered) :
    (tree.signal id).triggered = true := by
  rw [Tree.signal_changeSignal] at after
  split at after
  · rwa [same] at after
  · exact after

/-- A step triggers what somebody triggers, and else what is right below a triggered signal. -/
theorem Step.triggered_inv (step : Step tree event later) (sound : Sound tree)
    (after : (later.signal id).triggered = true) :
    (tree.signal id).triggered = true ∨ TriggeredIn [event] id ∨
      ∃ parent, tree.NestedIn id parent ∧ (tree.signal parent).triggered = true := by
  cases step with
  | made | nested =>
    have made := tree.signal_make id
    exact .inl (made ▸ after)
  | handed _ made =>
    obtain ⟨-, -, rfl⟩ := Tree.makeHandle_eq_ok_iff.mp made
    exact .inl after
  | refused | looked | waited | cloned | released | noticed | gaveUp => exact .inl after
  | abandoned | completed => exact .inl (Tree.triggered_changeSignal after fun _ => rfl)
  | triggered =>
    rcases Tree.triggered_trigger after with before | rfl
    · exact .inl before
    · exact .inr (.inl (.inl (List.mem_singleton_self _)))
  | @triggeredBy handle =>
    rcases Tree.triggered_trigger after with before | rfl
    · exact .inl before
    · exact .inr (.inl (.inr ⟨handle, List.mem_singleton_self _⟩))
  | @passed index bridge found waiting told =>
    have held := (sound.works found).holds waiting (.inl rfl)
    rcases Tree.triggered_trigger after with before | rfl
    · exact .inl before
    · exact .inr (.inr ⟨_, ⟨bridge, List.mem_of_getElem? found, rfl, rfl⟩,
        (Tree.waitIsOver_iff_isTriggered held).mp told⟩)

/-- A shutdown has its cause at the signal itself or further up the tree. -/
theorem Runs.cause {start : Tree} {trace : List Event} (run : Runs start trace tree)
    (sound : Sound start) (fresh : ∀ id, (start.signal id).triggered = false)
    (told : (tree.signal id).triggered = true) :
    ∃ origin, ReflTransGen tree.NestedIn id origin ∧ TriggeredIn trace origin := by
  induction run generalizing id with
  | empty =>
    rw [fresh] at told
    contradiction
  | @next trace before after event run step ih =>
    have holds := run.sound sound
    have above {low high : SignalId} (nested : before.NestedIn low high) : after.NestedIn low high :=
      nested.frame holds step.extends
    have earlier {low : SignalId} (told : (before.signal low).triggered = true) :
        ∃ origin, ReflTransGen after.NestedIn low origin ∧ TriggeredIn (trace ++ [event]) origin := by
      obtain ⟨origin, path, told⟩ := ih told
      exact ⟨origin, ReflTransGen.mono (fun _ _ nested => above nested) _ _ path, told.mono (List.subset_append_left _ _)⟩
    rcases step.triggered_inv holds told with old | now | ⟨parent, nested, old⟩
    · exact earlier old
    · exact ⟨id, .refl, now.mono (List.subset_append_right _ _)⟩
    · obtain ⟨origin, path, told⟩ := earlier old
      exact ⟨origin, path.head (above nested), told⟩

end Cause

/-! ### Completion -/

/-- No handle of a signal is held, and none will be. -/
structure Tree.Quiet (tree : Tree) (id : SignalId) : Prop where
  closed : (tree.signal id).accepting = false
  released : ∀ handle, tree.handleSignal handle = id → tree.isHeld handle = false

section Completion

variable {start tree later : Tree} {event : Event} {trace : List Event} {id child parent : SignalId}

theorem Tree.quiet_complete (owned : tree.Owned id) (done : (tree.complete id).1 = true) :
    (tree.complete id).2.Quiet id where
  closed := by
    change ((tree.changeSignal id _).signal id).accepting = false
    simp [owned.1]
  released handle of := by
    apply Bool.eq_false_iff.mpr
    intro held
    have counted := heldHandles_pos held
    rw [of] at counted
    exact counted.ne' (of_decide_eq_true done)

theorem Tree.isHeld_addHandle_inv (tree : Tree) {id : SignalId} {handle : HandleId}
    (held : (tree.addHandle id).2.isHeld handle = true) :
    tree.isHeld handle = true ∨ (tree.addHandle id).2.handleSignal handle = id := by
  rw [isHeld_addHandle] at held
  rw [handleSignal_addHandle]
  split at held
  · next new => exact .inr (if_pos new)
  · exact .inl held

theorem Tree.isHeld_releaseHandle_inv (tree : Tree) {released handle : HandleId}
    (held : (tree.releaseHandle released).isHeld handle = true) : tree.isHeld handle = true := by
  rw [isHeld_releaseHandle] at held
  split at held
  · contradiction
  · exact held

/-- A handle that is held was so before, or is made of a signal that makes handles, or of a handle
that is held. -/
theorem Step.isHeld_inv (step : Step tree event later) {handle : HandleId}
    (held : later.isHeld handle = true) :
    tree.isHeld handle = true ∨ (tree.signal (later.handleSignal handle)).accepting = true ∨
      ∃ original, tree.isHeld original = true ∧
        tree.handleSignal original = later.handleSignal handle := by
  cases step with
  | made | refused | looked | waited | abandoned | triggered | triggeredBy | completed | passed |
      noticed =>
    exact .inl held
  | nested =>
    rcases tree.make.2.isHeld_addHandle_inv held with old | new
    · exact .inl old
    · refine .inr (.inl ?_)
      change (tree.signal ((tree.make.2.addHandle _).2.handleSignal handle)).accepting = true
      rw [new]
      simp [Tree.signal]
  | handed _ made =>
    obtain ⟨accepting, -, rfl⟩ := Tree.makeHandle_eq_ok_iff.mp made
    rcases tree.isHeld_addHandle_inv held with old | new
    · exact .inl old
    · rw [new]
      exact .inr (.inl accepting)
  | cloned hand =>
    rcases tree.isHeld_addHandle_inv held with old | new
    · exact .inl old
    · exact .inr (.inr ⟨_, hand.1, new.symm⟩)
  | released | gaveUp => exact .inl (tree.isHeld_releaseHandle_inv held)

theorem Step.quiet (step : Step tree event later) (quiet : tree.Quiet id) : later.Quiet id where
  closed := step.extends.closed quiet.closed
  released handle of := by
    apply Bool.eq_false_iff.mpr
    intro held
    rcases step.isHeld_inv held with old | accepting | ⟨original, old, same⟩
    · have before := step.extends.handleSignal (Tree.lt_of_isHeld old)
      have gone := quiet.released handle (before.symm.trans of)
      rw [old] at gone
      contradiction
    · rw [of, quiet.closed] at accepting
      contradiction
    · have gone := quiet.released original (same.trans of)
      rw [old] at gone
      contradiction

theorem Step.completed_inv {done : Bool} (step : Step tree (.completed id done) later) :
    tree.Owned id ∧ tree.complete id = (done, later) := by
  generalize seen : Event.completed id done = event at step
  cases step with
  | completed owned =>
    cases seen
    exact ⟨owned, rfl⟩
  | _ => contradiction

theorem Runs.quiet (run : Runs start trace tree) (done : .completed id true ∈ trace) :
    tree.Quiet id := by
  induction run with
  | empty => contradiction
  | next _ step ih =>
    rcases List.mem_append.mp done with earlier | now
    · exact step.quiet (ih earlier)
    · rw [← List.mem_singleton.mp now] at step
      obtain ⟨owned, completed⟩ := step.completed_inv
      have quiet := Tree.quiet_complete owned (congrArg Prod.fst completed)
      rwa [completed] at quiet

/-- A bridge that gave up a handle has told its child. -/
theorem Sound.told (sound : Sound tree) {bridge : Bridge} (among : bridge ∈ tree.bridges)
    {handle : HandleId} (use : bridge.Uses handle) (released : tree.isHeld handle = false) :
    tree.isTriggered bridge.child = true := by
  obtain ⟨index, found⟩ := List.mem_iff_getElem?.mp among
  have works := sound.works found
  apply works.told
  apply Bool.eq_false_iff.mpr
  intro waiting
  rw [works.holds waiting use] at released
  contradiction

theorem Tree.Quiet.triggered_below (quiet : tree.Quiet id) (sound : Sound tree)
    (nested : tree.NestedIn child id) : (tree.signal child).triggered = true := by
  obtain ⟨bridge, among, rfl, of⟩ := nested
  exact sound.told among (.inl rfl) (quiet.released _ of)

theorem Tree.Quiet.triggered (quiet : tree.Quiet id) (sound : Sound tree)
    (nested : tree.NestedIn id parent) : (tree.signal id).triggered = true := by
  obtain ⟨bridge, among, rfl, -⟩ := nested
  exact sound.told among (.inr rfl) (quiet.released _ rfl)

end Completion

/-! ### What holders see -/

section Seen

variable {start tree later : Tree} {trace : List Event} {id : SignalId} {handle : HandleId}

theorem Step.looked_inv {answer : Bool} (step : Step tree (.looked handle id answer) later) :
    (tree.signal id).triggered = answer := by
  generalize seen : Event.looked handle id answer = event at step
  cases step with
  | looked =>
    cases seen
    rfl
  | _ => contradiction

theorem Step.waited_inv (step : Step tree (.waited handle id) later) :
    (tree.signal id).triggered = true := by
  generalize seen : Event.waited handle id = event at step
  cases step with
  | waited hand ended =>
    cases seen
    exact (Tree.waitIsOver_iff_isTriggered hand.1).mp ended
  | _ => contradiction

theorem Runs.looked {answer : Bool} (run : Runs start trace tree)
    (told : (start.signal id).triggered = true) (seen : .looked handle id answer ∈ trace) :
    answer = true := by
  induction run with
  | empty => contradiction
  | next run step ih =>
    rcases List.mem_append.mp seen with earlier | now
    · exact ih earlier
    · rw [← List.mem_singleton.mp now] at step
      exact step.looked_inv.symm.trans (run.extends.triggered told)

theorem Runs.waited (run : Runs start trace tree) (seen : .waited handle id ∈ trace) :
    (tree.signal id).triggered = true := by
  induction run with
  | empty => contradiction
  | next _ step ih =>
    apply step.extends.triggered
    rcases List.mem_append.mp seen with earlier | now
    · exact ih earlier
    · rw [← List.mem_singleton.mp now] at step
      exact step.waited_inv

end Seen

/-! ### What was triggered -/

section Told

variable {start tree later : Tree} {event : Event} {trace more : List Event} {id : SignalId}

theorem triggeredIn_append :
    TriggeredIn (trace ++ more) id ↔ TriggeredIn trace id ∨ TriggeredIn more id := by
  simp only [TriggeredIn, List.mem_append, exists_or]
  exact or_or_or_comm

theorem Tree.triggered_self (known : id < tree.signals.length) :
    ((tree.trigger id).signal id).triggered = true := by
  change ((tree.changeSignal id _).signal id).triggered = true
  simp [known]

theorem Step.told (step : Step tree event later) (sound : Sound tree)
    (told : TriggeredIn [event] id) : (later.signal id).triggered = true := by
  rcases told with seen | ⟨handle, seen⟩
  · cases List.mem_singleton.mp seen
    cases step with
    | triggered owned => exact Tree.triggered_self owned.1
  · cases List.mem_singleton.mp seen
    cases step with
    | triggeredBy hand => exact Tree.triggered_self (sound.known (Tree.lt_of_isHeld hand.1))

theorem Runs.told (run : Runs start trace tree) (sound : Sound start)
    (told : TriggeredIn trace id) : (tree.signal id).triggered = true := by
  induction run with
  | empty => rcases told with seen | ⟨_, seen⟩ <;> contradiction
  | next run step ih =>
    rcases triggeredIn_append.mp told with earlier | now
    · exact step.extends.triggered (ih earlier)
    · exact step.told (run.sound sound) now

end Told

/-! ### Safety -/

/-- What a tree of signals keeps to. -/
structure Safe (trace : List Event) (tree : Tree) : Prop where
  /-- Whoever triggers a signal succeeds in it. -/
  told : ∀ {id}, TriggeredIn trace id → (tree.signal id).triggered = true
  /-- A triggered signal stays triggered. All its handles show it, whenever they are made. -/
  lasts : ∀ {id more later}, (tree.signal id).triggered = true → Runs tree more later →
    (later.signal id).triggered = true ∧
      (∀ handle, later.handleSignal handle = id →
        later.isTriggered handle = true ∧ later.waitIsOver handle = true) ∧
      ∀ handle answer, .looked handle id answer ∈ more → answer = true
  /-- A wait on a handle ends with a shutdown only. -/
  waited : ∀ {handle id}, .waited handle id ∈ trace → (tree.signal id).triggered = true
  /-- Shutdowns come from above. -/
  cause : ∀ {id}, (tree.signal id).triggered = true →
    ∃ origin, ReflTransGen tree.NestedIn id origin ∧ TriggeredIn trace origin
  /-- Nothing is above itself, nor right below two signals. -/
  above : ∀ {child parent}, tree.NestedIn child parent →
    parent < child ∧ ∀ other, tree.NestedIn child other → other = parent
  /-- After completion no handle is held by anybody, bridges included. -/
  released : ∀ {id}, .completed id true ∈ trace →
    ∀ handle, tree.handleSignal handle = id → tree.isHeld handle = false
  below : ∀ {id child}, .completed id true ∈ trace → tree.NestedIn child id →
    (tree.signal child).triggered = true
  itself : ∀ {id parent}, .completed id true ∈ trace → tree.NestedIn id parent →
    (tree.signal id).triggered = true

theorem Sound.above {tree : Tree} (sound : Sound tree) {child parent : SignalId}
    (nested : tree.NestedIn child parent) :
    parent < child ∧ ∀ other, tree.NestedIn child other → other = parent := by
  obtain ⟨bridge, among, rfl, rfl⟩ := nested
  obtain ⟨index, found⟩ := List.mem_iff_getElem?.mp among
  refine ⟨(sound.works found).below, ?_⟩
  rintro other ⟨second, among', same, rfl⟩
  obtain ⟨index', found'⟩ := List.mem_iff_getElem?.mp among'
  obtain rfl := sound.single found found' same.symm
  rw [Option.some.inj (found.symm.trans found')]

/-- A tree of signals that starts from nothing is safe, whatever its parts do and whenever. -/
theorem safe_of_runs {tree : Tree} {trace : List Event} (run : Runs {} trace tree) :
    Safe trace tree := by
  have sound := run.sound sound_empty
  constructor
  · intro id told
    exact run.told sound_empty told
  · intro id more later told further
    have lasts := further.extends.triggered told
    refine ⟨lasts, ?_, fun handle answer seen => further.looked told seen⟩
    rintro handle rfl
    have shown : later.isTriggered handle = true := lasts
    exact ⟨shown, by rw [Tree.waitIsOver, shown, Bool.true_or]⟩
  · intro handle id seen
    exact run.waited seen
  · intro id told
    exact run.cause sound_empty (fun _ => rfl) told
  · intro child parent nested
    exact sound.above nested
  · intro id done
    exact (run.quiet done).released
  · intro id child done nested
    exact (run.quiet done).triggered_below sound nested
  · intro id parent done nested
    exact (run.quiet done).triggered sound nested

/-- A signal with one below it. The upper one is triggered, and the bridge passes that on to somebody
who waits. Both complete once everybody is gone. -/
theorem safe_two_levels :
    ∃ tree trace, Runs {} trace tree ∧
      [.triggered 0, .passed 0, .waited 2 1, .gaveUp 0 1, .gaveUp 0 0, .released 2,
        .completed 1 true, .completed 0 true] <:+ trace ∧
      tree.NestedIn 1 0 ∧ Safe trace tree := by
  have made : Runs {} [.made 0] _ := Runs.empty.next .made
  have handed := made.next (.handed (by decide) rfl : Step _ (.handed 0 0) _)
  have nested := handed.next (.nested (by decide) : Step _ (.nested 0 1) _)
  have listens := nested.next (.handed (by decide) rfl : Step _ (.handed 1 2) _)
  have told := listens.next (.triggered (by decide) : Step _ (.triggered 0) _)
  have passed := told.next (.passed rfl rfl rfl : Step _ (.passed 0) _)
  have waited := passed.next (.waited (by decide) rfl : Step _ (.waited 2 1) _)
  have half := waited.next (.gaveUp rfl rfl (.inr rfl) rfl : Step _ (.gaveUp 0 1) _)
  have gone := half.next (.gaveUp rfl rfl (.inl rfl) rfl : Step _ (.gaveUp 0 0) _)
  have released := gone.next (.released (by decide) : Step _ (.released 2) _)
  have lower := released.next (.completed (by decide) : Step _ (.completed 1 true) _)
  have upper := lower.next (.completed (by decide) : Step _ (.completed 0 true) _)
  exact ⟨_, _, upper, ⟨[.made 0, .handed 0 0, .nested 0 1, .handed 1 2], rfl⟩,
    ⟨_, List.mem_singleton_self _, rfl, rfl⟩, safe_of_runs upper⟩

end WeatherRelay.Shutdown
