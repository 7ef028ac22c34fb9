import Mathlib.Data.List.Count
import WeatherRelay.Proofs.Shutdown.Safety

/-! Owners of signals that go.

Whoever has a handle could start a shutdown with it. So a wait on it is never over for lack of
somebody who could, whether the owner of the signal is still there or not: it takes a shutdown of the
signal itself or of one above, and bridges that have passed it on.
-/

set_option autoImplicit false

namespace WeatherRelay.Shutdown

open Relation (ReflTransGen)

/-! ### Bridges at rest -/

namespace Tree

/-- No bridge has anything to do. -/
def AtRest (tree : Tree) : Prop := ∀ index, tree.bridgeStep? index = none

variable {tree later : Tree} {index : Nat} {bridge : Bridge} {id : SignalId}

theorem anyBridgeStep?_eq_none_iff : tree.anyBridgeStep? = none ↔ tree.AtRest := by
  rw [anyBridgeStep?, List.findSome?_eq_none_iff]
  constructor
  · intro none index
    rcases Nat.lt_or_ge index tree.bridges.length with inside | beyond
    · exact none index (List.mem_range.mpr inside)
    · rw [bridgeStep?, List.getElem?_eq_none beyond]
  · intro rest index _
    exact rest index

theorem AtRest.parent_waits (rest : tree.AtRest) (found : tree.bridges[index]? = some bridge)
    (waiting : bridge.waiting = true) : tree.waitIsOver bridge.parent = false := by
  have none := rest index
  simp only [bridgeStep?, found, waiting, Bool.not_true, Bool.false_eq_true, if_false] at none
  split at none
  · contradiction
  · next waits => exact Bool.eq_false_iff.mpr waits

/-- Where all bridges are at rest, a shutdown has come all the way down. -/
theorem AtRest.triggered_below (rest : tree.AtRest) (sound : Sound tree) {origin : SignalId}
    (path : ReflTransGen tree.NestedIn id origin) (told : (tree.signal origin).triggered = true) :
    (tree.signal id).triggered = true := by
  induction path using ReflTransGen.head_induction_on with
  | refl => exact told
  | head nested _ above =>
    obtain ⟨bridge, among, rfl, rfl⟩ := nested
    obtain ⟨index, found⟩ := List.mem_iff_getElem?.mp among
    cases waiting : bridge.waiting with
    | false => exact (sound.works found).told waiting
    | true =>
      have waits := rest.parent_waits found waiting
      have triggered : tree.isTriggered bridge.parent = true := above
      rw [waitIsOver, triggered] at waits
      contradiction

theorem bridgeStep?_bridges (moved : tree.bridgeStep? index = some later) :
    ∃ bridge, tree.bridges[index]? = some bridge ∧ bridge.waiting = true ∧
      later.bridges = tree.bridges.set index { bridge with waiting := false } := by
  unfold bridgeStep? at moved
  split at moved
  · contradiction
  · next bridge found =>
    refine ⟨bridge, found, ?_⟩
    split at moved
    · contradiction
    · next waiting =>
      refine ⟨by simpa using waiting, ?_⟩
      split at moved
      · exact Option.some.inj moved ▸ rfl
      · split at moved
        · exact Option.some.inj moved ▸ rfl
        · contradiction

def waitingBridges (tree : Tree) : Nat := tree.bridges.countP fun bridge => bridge.waiting

theorem waitingBridges_of_bridgeStep? (moved : tree.bridgeStep? index = some later) :
    later.waitingBridges + 1 = tree.waitingBridges := by
  obtain ⟨bridge, found, waiting, bridges⟩ := bridgeStep?_bridges moved
  obtain ⟨inside, rfl⟩ := List.getElem?_eq_some_iff.mp found
  have counted : 0 < tree.waitingBridges :=
    List.countP_pos_iff.mpr ⟨_, List.getElem_mem inside, waiting⟩
  rw [waitingBridges, bridges, List.countP_set inside, if_pos waiting, if_neg Bool.false_ne_true]
  exact Nat.succ_pred_eq_of_pos counted

/-- Each bridge takes one step at most, so that there are as many steps as bridges that wait. -/
theorem settleWithin_atRest {steps : Nat} (enough : tree.waitingBridges ≤ steps) :
    (settleWithin steps tree).AtRest := by
  induction steps generalizing tree with
  | zero =>
    intro index
    cases moved : tree.bridgeStep? index with
    | none => exact moved
    | some later =>
      have fewer := waitingBridges_of_bridgeStep? moved
      omega
  | succ steps ih =>
    unfold settleWithin
    cases moved : tree.anyBridgeStep? with
    | none => exact anyBridgeStep?_eq_none_iff.mp moved
    | some later =>
      obtain ⟨index, -, step⟩ := List.exists_of_findSome?_eq_some moved
      have fewer := waitingBridges_of_bridgeStep? step
      exact ih (by omega)

theorem settle_atRest (tree : Tree) : tree.settle.AtRest :=
  settleWithin_atRest List.countP_le_length

end Tree

/-! ### Waits -/

/-- Somebody triggered the signal or one above it. -/
def ToldFromAbove (trace : List Event) (tree : Tree) (id : SignalId) : Prop :=
  ∃ origin, ReflTransGen tree.NestedIn id origin ∧ TriggeredIn trace origin

/-- What a wait on a handle takes. -/
structure WaitsForShutdown (trace : List Event) (tree : Tree) (handle : HandleId) : Prop where
  /-- The holder is among those who could start a shutdown. -/
  able : tree.canTrigger (tree.handleSignal handle) = true
  /-- It makes no difference to the wait whether an owner goes. -/
  owners : ∀ id, (tree.abandon id).waitIsOver handle = tree.waitIsOver handle
  /-- The wait is not over without a shutdown. -/
  cause : tree.waitIsOver handle = true → ToldFromAbove trace tree (tree.handleSignal handle)
  /-- It is over with one of the signal itself, -/
  told : TriggeredIn trace (tree.handleSignal handle) → tree.waitIsOver handle = true
  /-- and with one from above once the bridges have done their work. -/
  passed : tree.AtRest →
    ToldFromAbove trace tree (tree.handleSignal handle) → tree.waitIsOver handle = true

section Waits

variable {tree : Tree} {handle : HandleId} {id : SignalId}

theorem Tree.waitIsOver_abandon (held : tree.isHeld handle = true) :
    (tree.abandon id).waitIsOver handle = tree.waitIsOver handle := by
  have same : (tree.abandon id).isTriggered handle = tree.isTriggered handle := by
    change ((tree.changeSignal id _).signal (tree.handleSignal handle)).triggered = _
    rw [signal_changeSignal]
    split <;> rfl
  have gone : (tree.abandon id).isHeld handle = true := held
  rw [Bool.eq_iff_iff, waitIsOver_iff_isTriggered gone, waitIsOver_iff_isTriggered held, same]

/-- Bridges that come to rest have passed on what was started before. -/
theorem Runs.triggered_settle {trace : List Event} (run : Runs {} trace tree)
    (told : ToldFromAbove trace tree id) : (tree.settle.signal id).triggered = true := by
  have sound := run.sound sound_empty
  obtain ⟨more, further⟩ := Tree.settle_runs sound
  obtain ⟨origin, path, told⟩ := told
  refine tree.settle_atRest.triggered_below (further.sound sound) ?_
    (further.extends.triggered (run.told sound_empty told))
  exact ReflTransGen.mono (fun _ _ nested => nested.frame sound further.extends) _ _ path

/-- Everybody who still has a handle waits for a shutdown, after the owner of the signal is gone as
before. One that was started is there once the bridges come to rest, as they can. -/
theorem handles_wait_for_shutdown {trace : List Event} (run : Runs {} trace tree) :
    (∀ handle, tree.isHeld handle = true → WaitsForShutdown trace tree handle) ∧
    ∃ more, Runs tree more tree.settle ∧ tree.settle.AtRest ∧
      ∀ id, ToldFromAbove trace tree id → (tree.settle.signal id).triggered = true := by
  have sound := run.sound sound_empty
  obtain ⟨more, further⟩ := Tree.settle_runs sound
  refine ⟨fun handle held => ?_, more, further, tree.settle_atRest, fun id => run.triggered_settle⟩
  have ended := Tree.waitIsOver_iff_isTriggered held
  constructor
  · rw [Tree.canTrigger, decide_eq_true (Tree.heldHandles_pos held), Bool.or_true]
  · intro id
    exact Tree.waitIsOver_abandon held
  · intro waited
    exact run.cause sound_empty (fun _ => rfl) (ended.mp waited)
  · intro told
    exact ended.mpr (run.told sound_empty told)
  · rintro rest ⟨origin, path, told⟩
    exact ended.mpr (rest.triggered_below sound path (run.told sound_empty told))

/-- Both owners of two nested signals go. Somebody below waits until a handle of the upper signal
starts a shutdown and the bridge passes it on. -/
theorem handles_wait_for_shutdown_nested :
    ∃ trace orphaned tree, [.abandoned 1, .abandoned 0] <:+ trace ∧ Runs {} trace orphaned ∧
      WaitsForShutdown trace orphaned 2 ∧ orphaned.waitIsOver 2 = false ∧
      Runs {} (trace ++ [.triggeredBy 3 0, .passed 0]) tree ∧
      WaitsForShutdown (trace ++ [.triggeredBy 3 0, .passed 0]) tree 2 ∧
      tree.waitIsOver 2 = true := by
  have made : Runs {} [.made 0] _ := Runs.empty.next .made
  have handed := made.next (.handed (by decide) rfl : Step _ (.handed 0 0) _)
  have nested := handed.next (.nested (by decide) : Step _ (.nested 0 1) _)
  have listens := nested.next (.handed (by decide) rfl : Step _ (.handed 1 2) _)
  have second := listens.next (.handed (by decide) rfl : Step _ (.handed 0 3) _)
  have lower := second.next (.abandoned (by decide) : Step _ (.abandoned 1) _)
  have gone := lower.next (.abandoned (by decide) : Step _ (.abandoned 0) _)
  have started := gone.next (.triggeredBy (by decide) : Step _ (.triggeredBy 3 0) _)
  have passed := started.next (.passed rfl rfl rfl : Step _ (.passed 0) _)
  exact ⟨_, _, _, ⟨[.made 0, .handed 0 0, .nested 0 1, .handed 1 2, .handed 0 3], rfl⟩, gone,
    (handles_wait_for_shutdown gone).1 2 rfl, rfl, passed,
    (handles_wait_for_shutdown passed).1 2 rfl, rfl⟩

/-- The owner of a signal goes, and nobody has started a shutdown. Whoever has the one handle of it
does not see the end of a wait. -/
theorem orphan_waits_on :
    ∃ tree, Runs {} [.made 0, .handed 0 0, .abandoned 0] tree ∧
      (tree.signal 0).owned = false ∧ tree.AtHand 0 ∧ tree.handleSignal 0 = 0 ∧
      tree.waitIsOver 0 = false := by
  have made : Runs {} [.made 0] _ := Runs.empty.next .made
  have handed := made.next (.handed (by decide) rfl : Step _ (.handed 0 0) _)
  have gone := handed.next (.abandoned (by decide) : Step _ (.abandoned 0) _)
  exact ⟨_, gone, rfl, by decide, rfl, rfl⟩

end Waits

end WeatherRelay.Shutdown
