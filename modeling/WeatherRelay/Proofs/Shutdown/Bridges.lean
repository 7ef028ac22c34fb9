import WeatherRelay.Proofs.Shutdown.System

/-! Bridges do their work, in whatever order the parts of a tree get to act.

A bridge holds a handle of its parent and one of its child until the child is triggered. Nobody else
gets at its handles, and what is in a tree stays where it is.
-/

set_option autoImplicit false

namespace WeatherRelay.Shutdown

/-! ### What is there stays there -/

/-- What a tree has of signals, handles and bridges stays where it is, and all shutdowns last. -/
structure Extends (tree later : Tree) : Prop where
  signals : tree.signals.length ≤ later.signals.length
  handles : tree.handles.length ≤ later.handles.length
  handleSignal : ∀ {handle}, handle < tree.handles.length →
    later.handleSignal handle = tree.handleSignal handle
  triggered : ∀ {id}, (tree.signal id).triggered = true → (later.signal id).triggered = true
  closed : ∀ {id}, (tree.signal id).accepting = false → (later.signal id).accepting = false
  bridges : ∀ {index : Nat} {bridge : Bridge}, tree.bridges[index]? = some bridge →
    ∃ waiting, later.bridges[index]? = some { bridge with waiting }

namespace Extends

variable {tree middle later : Tree}

theorem refl (tree : Tree) : Extends tree tree :=
  ⟨le_rfl, le_rfl, fun _ => rfl, id, id, fun found => ⟨_, found⟩⟩

theorem trans (first : Extends tree middle) (second : Extends middle later) :
    Extends tree later where
  signals := first.signals.trans second.signals
  handles := first.handles.trans second.handles
  handleSignal known :=
    (second.handleSignal (known.trans_le first.handles)).trans (first.handleSignal known)
  triggered before := second.triggered (first.triggered before)
  closed before := second.closed (first.closed before)
  bridges found := by
    obtain ⟨_, found⟩ := first.bridges found
    obtain ⟨waiting, found⟩ := second.bridges found
    exact ⟨waiting, found⟩

theorem make (tree : Tree) : Extends tree tree.make.2 where
  signals := by simp
  handles := le_rfl
  handleSignal _ := rfl
  triggered before := by rwa [Tree.signal_make]
  closed before := by rwa [Tree.signal_make]
  bridges found := ⟨_, found⟩

theorem addHandle (tree : Tree) (id : SignalId) : Extends tree (tree.addHandle id).2 where
  signals := le_rfl
  handles := by simp
  handleSignal known := by simp [known.ne]
  triggered before := before
  closed before := before
  bridges found := ⟨_, found⟩

theorem releaseHandle (tree : Tree) (id : HandleId) : Extends tree (tree.releaseHandle id) where
  signals := le_rfl
  handles := by simp
  handleSignal _ := by simp
  triggered before := before
  closed before := before
  bridges found := ⟨_, found⟩

theorem changeSignal (tree : Tree) (id : SignalId) {change : Signal → Signal}
    (triggered : ∀ signal, signal.triggered = true → (change signal).triggered = true)
    (closed : ∀ signal, signal.accepting = false → (change signal).accepting = false) :
    Extends tree (tree.changeSignal id change) where
  signals := by simp
  handles := le_rfl
  handleSignal _ := rfl
  triggered before := by
    rw [Tree.signal_changeSignal]
    split
    · exact triggered _ before
    · exact before
  closed before := by
    rw [Tree.signal_changeSignal]
    split
    · exact closed _ before
    · exact before
  bridges found := ⟨_, found⟩

theorem trigger (tree : Tree) (id : SignalId) : Extends tree (tree.trigger id) :=
  changeSignal tree id (fun _ _ => rfl) (fun _ before => before)

theorem stopWaiting (tree : Tree) (index : Nat) : Extends tree (tree.stopWaiting index) where
  signals := le_rfl
  handles := le_rfl
  handleSignal _ := rfl
  triggered before := before
  closed before := before
  bridges {other bridge} found := by
    simp only [Tree.stopWaiting, List.getElem?_modify, found]
    by_cases same : index = other
    · exact ⟨false, by simp [same]⟩
    · exact ⟨bridge.waiting, by simp [same]⟩

theorem addBridge (tree : Tree) (bridge : Bridge) : Extends tree (tree.addBridge bridge) where
  signals := le_rfl
  handles := le_rfl
  handleSignal _ := rfl
  triggered before := before
  closed before := before
  bridges found := ⟨_, tree.bridges_addBridge.mpr (.inl found)⟩

theorem nest (tree : Tree) (parent : HandleId) : Extends tree (tree.nest parent).2 :=
  ((make tree).trans (addHandle _ _)).trans (addBridge _ _)

end Extends

section Makes

variable {tree after : Tree} {id : SignalId} {handle : HandleId}

/-- A handle is made of a signal only as long as completion was not asked for. -/
theorem Tree.makeHandle_eq_ok_iff :
    tree.makeHandle id = .ok (handle, after) ↔
      (tree.signal id).accepting = true ∧ tree.handles.length = handle ∧
        (tree.addHandle id).2 = after := by
  unfold makeHandle
  split
  · next accepting => simp [accepting, Prod.ext_iff, addHandle]
  · next refusing => simp [refusing]

end Makes

theorem Step.extends {tree later : Tree} {event : Event} (step : Step tree event later) :
    Extends tree later := by
  cases step with
  | made => exact .make tree
  | nested => exact .nest tree _
  | handed _ made =>
    obtain ⟨-, -, rfl⟩ := Tree.makeHandle_eq_ok_iff.mp made
    exact .addHandle tree _
  | refused | looked | waited => exact .refl tree
  | cloned => exact .addHandle tree _
  | released | gaveUp => exact .releaseHandle tree _
  | abandoned => exact .changeSignal tree _ (fun _ before => before) (fun _ _ => rfl)
  | triggered | triggeredBy => exact .trigger tree _
  | completed => exact .changeSignal tree _ (fun _ before => before) (fun _ _ => rfl)
  | passed => exact (Extends.trigger tree _).trans (.stopWaiting _ _)
  | noticed => exact .stopWaiting tree _

theorem Runs.extends {start tree : Tree} {trace : List Event} (run : Runs start trace tree) :
    Extends start tree := by
  induction run with
  | empty => exact .refl start
  | next _ step ih => exact ih.trans step.extends

/-! ### Bridges -/

/-- What holds of a bridge all its life. -/
structure Bridge.Works (bridge : Bridge) (tree : Tree) : Prop where
  known : ∀ {handle}, bridge.Uses handle → handle < tree.handles.length
  below : tree.handleSignal bridge.parent < tree.handleSignal bridge.child
  holds : bridge.waiting = true → ∀ {handle}, bridge.Uses handle → tree.isHeld handle = true
  told : bridge.waiting = false → tree.isTriggered bridge.child = true

/-- Signals are numbered in the order in which they were made. Each is below one other at most, and
no handle is in two hands. -/
structure Sound (tree : Tree) : Prop where
  known : ∀ {handle}, handle < tree.handles.length →
    tree.handleSignal handle < tree.signals.length
  works : ∀ {index : Nat} {bridge : Bridge}, tree.bridges[index]? = some bridge → bridge.Works tree
  apart : ∀ {i j : Nat} {one other : Bridge} {handle : HandleId}, tree.bridges[i]? = some one →
    tree.bridges[j]? = some other → one.Uses handle → other.Uses handle → i = j
  single : ∀ {i j : Nat} {one other : Bridge}, tree.bridges[i]? = some one →
    tree.bridges[j]? = some other →
    tree.handleSignal one.child = tree.handleSignal other.child → i = j

section Sound

variable {tree later : Tree}

theorem sound_empty : Sound {} := by
  constructor <;> simp

theorem Bridge.Works.frame {bridge : Bridge} (works : bridge.Works tree)
    (extended : Extends tree later)
    (holds : bridge.waiting = true → ∀ {handle}, bridge.Uses handle → later.isHeld handle = true) :
    bridge.Works later where
  known use := Nat.lt_of_lt_of_le (works.known use) extended.handles
  below := by
    rw [extended.handleSignal (works.known (.inl rfl)),
      extended.handleSignal (works.known (.inr rfl))]
    exact works.below
  holds := holds
  told ended := by
    rw [Tree.isTriggered, extended.handleSignal (works.known (.inr rfl))]
    exact extended.triggered (works.told ended)

/-- A step that does nothing to bridges, and takes no handle from one that waits. -/
theorem Sound.frame (sound : Sound tree) (extended : Extends tree later)
    (same : later.bridges = tree.bridges)
    (known : ∀ {handle}, handle < later.handles.length →
      later.handleSignal handle < later.signals.length)
    (holds : ∀ {index : Nat} {bridge : Bridge}, tree.bridges[index]? = some bridge →
      bridge.waiting = true → ∀ {handle}, bridge.Uses handle → later.isHeld handle = true) :
    Sound later where
  known := known
  works found := by
    rw [same] at found
    exact (sound.works found).frame extended (holds found)
  apart found found' := by
    rw [same] at found found'
    exact sound.apart found found'
  single found found' equal := by
    rw [same] at found found'
    rw [extended.handleSignal ((sound.works found).known (.inr rfl)),
      extended.handleSignal ((sound.works found').known (.inr rfl))] at equal
    exact sound.single found found' equal

theorem Sound.make (sound : Sound tree) : Sound tree.make.2 :=
  sound.frame (.make tree) rfl
    (fun known => by
      rw [Tree.length_signals_make]
      exact Nat.lt_succ_of_lt (sound.known known))
    fun found => (sound.works found).holds

theorem Sound.addHandle (sound : Sound tree) {id : SignalId} (there : id < tree.signals.length) :
    Sound (tree.addHandle id).2 := by
  apply sound.frame (.addHandle tree id) rfl
  · intro handle known
    rw [Tree.length_handles_addHandle] at known
    rw [Tree.handleSignal_addHandle]
    split
    · exact there
    · next old => exact sound.known (Nat.lt_of_le_of_ne (Nat.le_of_lt_succ known) old)
  · intro index bridge found waiting handle use
    rw [Tree.isHeld_addHandle, (sound.works found).holds waiting use, ite_self]

theorem Sound.releaseHandle (sound : Sound tree) {handle : HandleId}
    (free : ∀ {index : Nat} {bridge : Bridge}, tree.bridges[index]? = some bridge →
      bridge.waiting = true → ¬bridge.Uses handle) :
    Sound (tree.releaseHandle handle) := by
  apply sound.frame (.releaseHandle tree handle) rfl
  · intro other known
    rw [Tree.length_handles_releaseHandle] at known
    rw [Tree.handleSignal_releaseHandle]
    exact sound.known known
  · intro index bridge found waiting other use
    have different : other ≠ handle := by
      rintro rfl
      exact free found waiting use
    rw [Tree.isHeld_releaseHandle, if_neg different]
    exact (sound.works found).holds waiting use

theorem Sound.changeSignal (sound : Sound tree) {id : SignalId} {change : Signal → Signal}
    (extended : Extends tree (tree.changeSignal id change)) : Sound (tree.changeSignal id change) :=
  sound.frame extended rfl
    (fun known => by
      rw [Tree.length_signals_changeSignal]
      exact sound.known known)
    fun found => (sound.works found).holds

/-- A bridge stops waiting once its child is triggered. -/
theorem Sound.stopWaiting (sound : Sound tree) {index : Nat} {bridge : Bridge}
    (found : tree.bridges[index]? = some bridge) (told : tree.isTriggered bridge.child = true) :
    Sound (tree.stopWaiting index) where
  known := sound.known
  works {other after} stopped := by
    obtain ⟨before, found', rfl⟩ := tree.bridges_stopWaiting.mp stopped
    have works := sound.works found'
    split
    · next same =>
      subst same
      obtain rfl : bridge = before := Option.some.inj (found.symm.trans found')
      exact ⟨works.known, works.below, nofun, fun _ => told⟩
    · exact works.frame (.stopWaiting tree index) works.holds
  apart one other use use' := by
    obtain ⟨before, found, rfl⟩ := tree.bridges_stopWaiting.mp one
    obtain ⟨before', found', rfl⟩ := tree.bridges_stopWaiting.mp other
    exact sound.apart found found' (by split at use <;> exact use) (by split at use' <;> exact use')
  single one other equal := by
    obtain ⟨before, found, rfl⟩ := tree.bridges_stopWaiting.mp one
    obtain ⟨before', found', rfl⟩ := tree.bridges_stopWaiting.mp other
    apply sound.single found found'
    split at equal <;> split at equal <;> exact equal

theorem Sound.addBridge (sound : Sound tree) {bridge : Bridge} (waits : bridge.waiting = true)
    (below : tree.handleSignal bridge.parent < tree.handleSignal bridge.child)
    (free : ∀ handle, bridge.Uses handle → tree.AtHand handle)
    (fresh : ∀ {index : Nat} {other : Bridge}, tree.bridges[index]? = some other →
      tree.handleSignal other.child ≠ tree.handleSignal bridge.child) :
    Sound (tree.addBridge bridge) where
  known := sound.known
  works found := by
    rcases tree.bridges_addBridge.mp found with found | ⟨-, rfl⟩
    · exact (sound.works found).frame (.addBridge tree bridge) (sound.works found).holds
    · exact ⟨fun use => Tree.lt_of_isHeld (free _ use).1, below, fun _ _ use => (free _ use).1,
        fun ended => by rw [waits] at ended; contradiction⟩
  apart found found' use use' := by
    rcases tree.bridges_addBridge.mp found with found | ⟨last, rfl⟩ <;>
      rcases tree.bridges_addBridge.mp found' with found' | ⟨last', rfl⟩
    · exact sound.apart found found' use use'
    · exact absurd use ((free _ use').2 _ (List.mem_of_getElem? found))
    · exact absurd use' ((free _ use).2 _ (List.mem_of_getElem? found'))
    · exact last.trans last'.symm
  single found found' equal := by
    rcases tree.bridges_addBridge.mp found with found | ⟨last, rfl⟩ <;>
      rcases tree.bridges_addBridge.mp found' with found' | ⟨last', rfl⟩
    · exact sound.single found found' equal
    · exact absurd equal (fresh found)
    · exact absurd equal.symm (fresh found')
    · exact last.trans last'.symm

theorem Sound.nest (sound : Sound tree) {parent : HandleId} (hand : tree.AtHand parent) :
    Sound (tree.nest parent).2 := by
  have known := Tree.lt_of_isHeld hand.1
  rw [Tree.nest_eq]
  apply (sound.make.addHandle (by simp)).addBridge rfl
  · simpa [known.ne] using sound.known known
  · rintro handle (rfl | rfl)
    · exact ⟨by simp [known.ne, hand.1], hand.2⟩
    · refine ⟨by simp, fun bridge among use => ?_⟩
      obtain ⟨index, found⟩ := List.mem_iff_getElem?.mp among
      exact absurd ((sound.works found).known use) (Nat.lt_irrefl _)
  · intro index other found
    have old := (sound.works found).known (.inr rfl)
    simpa [old.ne] using (sound.known old).ne

end Sound

section Step

variable {tree later : Tree} {event : Event}

theorem Tree.isTriggered_triggerHandle {handle : HandleId}
    (known : tree.handleSignal handle < tree.signals.length) :
    (tree.triggerHandle handle).isTriggered handle = true := by
  change ((tree.changeSignal _ _).signal (tree.handleSignal handle)).triggered = true
  simp [known]

theorem Step.sound (step : Step tree event later) (sound : Sound tree) : Sound later := by
  cases step with
  | made => exact sound.make
  | nested hand => exact sound.nest hand
  | handed owned made =>
    obtain ⟨-, -, rfl⟩ := Tree.makeHandle_eq_ok_iff.mp made
    exact sound.addHandle owned.1
  | refused | looked | waited => exact sound
  | cloned hand => exact sound.addHandle (sound.known (Tree.lt_of_isHeld hand.1))
  | released hand =>
    exact sound.releaseHandle fun found _ use => hand.2 _ (List.mem_of_getElem? found) use
  | abandoned => exact sound.changeSignal (.changeSignal tree _ (fun _ before => before) fun _ _ => rfl)
  | triggered | triggeredBy => exact sound.changeSignal (.trigger tree _)
  | completed => exact sound.changeSignal (.changeSignal tree _ (fun _ before => before) fun _ _ => rfl)
  | @passed index bridge found =>
    have known := sound.known ((sound.works found).known (.inr rfl))
    exact Sound.stopWaiting (sound.changeSignal (.trigger tree _)) found
      (Tree.isTriggered_triggerHandle known)
  | noticed found waiting told =>
    have held := (sound.works found).holds waiting (.inr rfl)
    exact sound.stopWaiting found ((Tree.waitIsOver_iff_isTriggered held).mp told)
  | gaveUp found done use =>
    apply sound.releaseHandle
    intro index other found' waiting use'
    obtain rfl := sound.apart found found' use use'
    obtain rfl := Option.some.inj (found.symm.trans found')
    rw [done] at waiting
    contradiction

end Step

theorem Runs.sound {start tree : Tree} {trace : List Event} (run : Runs start trace tree)
    (sound : Sound start) : Sound tree := by
  induction run with
  | empty => exact sound
  | next _ step ih => exact step.sound ih

/-! ### Bridges that run on their own -/

namespace Tree

variable {tree later : Tree} {index : Nat} {bridge : Bridge}

theorem bridges_set (found : tree.bridges[index]? = some bridge) :
    tree.bridges.set index { bridge with waiting := false } = (tree.stopWaiting index).bridges := by
  apply List.ext_getElem?
  intro other
  rw [stopWaiting, List.getElem?_modify, List.getElem?_set]
  split
  · next same =>
    obtain ⟨inside, rfl⟩ := List.getElem?_eq_some_iff.mp found
    simp [← same, inside]
  · simp

/-- What a bridge does after its wait is to give up its handles, one after the other. -/
theorem giveUp_runs {woken : Tree} (found : woken.bridges[index]? = some bridge)
    (different : bridge.child ≠ bridge.parent)
    (held : ∀ handle, bridge.Uses handle → woken.isHeld handle = true) :
    ∃ trace, Runs (woken.stopWaiting index) trace
      { (woken.releaseHandle bridge.parent).releaseHandle bridge.child with
        bridges := woken.bridges.set index { bridge with waiting := false } } := by
  have stopped : (woken.stopWaiting index).bridges[index]? =
      some { bridge with waiting := false } := by
    rw [bridges_stopWaiting]
    exact ⟨bridge, found, if_pos rfl⟩
  have still : ((woken.stopWaiting index).releaseHandle bridge.parent).isHeld bridge.child = true := by
    rw [isHeld_releaseHandle, if_neg different]
    exact held _ (.inr rfl)
  have first : Step (woken.stopWaiting index) (.gaveUp index bridge.parent)
      ((woken.stopWaiting index).releaseHandle bridge.parent) :=
    .gaveUp stopped rfl (.inl rfl) (held _ (.inl rfl))
  rw [bridges_set found]
  exact ⟨_, (Runs.empty.next first).next (.gaveUp stopped rfl (.inr rfl) still)⟩

/-- The step of a bridge is its wake-up and its two handles, one after the other. -/
theorem bridgeStep?_runs (sound : Sound tree) (moved : tree.bridgeStep? index = some later) :
    ∃ trace, Runs tree trace later := by
  unfold bridgeStep? at moved
  cases found : tree.bridges[index]? with
  | none =>
    rw [found] at moved
    contradiction
  | some bridge =>
    have works := sound.works found
    have different : bridge.child ≠ bridge.parent := by
      intro same
      have below := works.below
      rw [same] at below
      exact Nat.lt_irrefl _ below
    rw [found] at moved
    cases waiting : bridge.waiting with
    | false => simp [waiting] at moved
    | true =>
      have held : ∀ handle, bridge.Uses handle → tree.isHeld handle = true := by
        intro handle use
        exact works.holds waiting use
      simp only [waiting, Bool.not_true, Bool.false_eq_true, if_false] at moved
      split at moved
      · next told =>
        obtain rfl := Option.some.inj moved
        obtain ⟨trace, rest⟩ :=
          @giveUp_runs index bridge (tree.triggerHandle bridge.child) found different held
        exact ⟨_, (Runs.empty.next (.passed found waiting told)).trans rest⟩
      · split at moved
        · next told =>
          obtain rfl := Option.some.inj moved
          obtain ⟨trace, rest⟩ := giveUp_runs found different held
          exact ⟨_, (Runs.empty.next (.noticed found waiting told)).trans rest⟩
        · contradiction

theorem settleWithin_runs (steps : Nat) (sound : Sound tree) :
    ∃ trace, Runs tree trace (settleWithin steps tree) := by
  induction steps generalizing tree with
  | zero => exact ⟨[], .empty⟩
  | succ steps ih =>
    unfold settleWithin
    cases moved : tree.anyBridgeStep? with
    | none => exact ⟨[], .empty⟩
    | some next =>
      obtain ⟨index, -, step⟩ := List.exists_of_findSome?_eq_some moved
      obtain ⟨trace, first⟩ := bridgeStep?_runs sound step
      obtain ⟨more, rest⟩ := ih (first.sound sound)
      exact ⟨trace ++ more, first.trans rest⟩

/-- Bridges that run until all of them wait take steps that they might take among others. -/
theorem settle_runs (sound : Sound tree) : ∃ trace, Runs tree trace tree.settle :=
  settleWithin_runs _ sound

end Tree

end WeatherRelay.Shutdown
