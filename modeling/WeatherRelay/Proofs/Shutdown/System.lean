import Mathlib.Data.List.GetD
import Mathlib.Logic.Relation
import Mathlib.Order.Nat
import WeatherRelay.Shutdown

/-! Everybody around a tree of signals.

Owners make signals, nest them, hand out handles and ask for completion. Holders clone their handles,
look at them, wait on them and give them up. Either may trigger a signal. Each bridge is a task of its
own: it stops waiting, and gives up its two handles later, one by one and in any order.
-/

set_option autoImplicit false

namespace WeatherRelay.Shutdown

def Bridge.Uses (bridge : Bridge) (handle : HandleId) : Prop :=
  handle = bridge.parent ∨ handle = bridge.child

instance (bridge : Bridge) : DecidablePred bridge.Uses :=
  fun handle => inferInstanceAs (Decidable (handle = bridge.parent ∨ handle = bridge.child))

namespace Tree

def isHeld (tree : Tree) (id : HandleId) : Bool := (tree.handles.getD id ⟨0, false⟩).held

/-- Somebody other than a bridge has the handle. -/
def AtHand (tree : Tree) (id : HandleId) : Prop :=
  tree.isHeld id = true ∧ ∀ bridge ∈ tree.bridges, ¬bridge.Uses id

instance (tree : Tree) (id : HandleId) : Decidable (tree.AtHand id) :=
  @instDecidableAnd _ _ _ (List.decidableBAll (fun bridge => ¬bridge.Uses id) tree.bridges)

def Owned (tree : Tree) (id : SignalId) : Prop :=
  id < tree.signals.length ∧ (tree.signal id).owned = true

instance (tree : Tree) : DecidablePred tree.Owned :=
  fun id => inferInstanceAs (Decidable (id < tree.signals.length ∧ (tree.signal id).owned = true))

/-- A signal is directly below another. -/
def NestedIn (tree : Tree) (child parent : SignalId) : Prop :=
  ∃ bridge ∈ tree.bridges,
    tree.handleSignal bridge.child = child ∧ tree.handleSignal bridge.parent = parent

def changeSignal (tree : Tree) (id : SignalId) (change : Signal → Signal) : Tree :=
  { tree with signals := tree.signals.modify id change }

def addBridge (tree : Tree) (bridge : Bridge) : Tree :=
  { tree with bridges := tree.bridges ++ [bridge] }

def stopWaiting (tree : Tree) (index : Nat) : Tree :=
  { tree with
    bridges := tree.bridges.modify index fun bridge => { bridge with waiting := false } }

end Tree

/-- What is seen of a step. What is done with a handle shows the signal that it is of. -/
inductive Event where
  | made (signal : SignalId)
  | nested (parent : HandleId) (signal : SignalId)
  | handed (signal : SignalId) (handle : HandleId)
  /-- A handle was asked of a signal that makes no more. -/
  | refused (signal : SignalId)
  | cloned (original copy : HandleId)
  | released (handle : HandleId)
  | abandoned (signal : SignalId)
  | triggered (signal : SignalId)
  | triggeredBy (handle : HandleId) (signal : SignalId)
  | looked (handle : HandleId) (signal : SignalId) (answer : Bool)
  /-- A wait on a handle is over. -/
  | waited (handle : HandleId) (signal : SignalId)
  /-- Completion was asked for, and is there or is not. -/
  | completed (signal : SignalId) (done : Bool)
  | passed (bridge : Nat)
  | noticed (bridge : Nat)
  | gaveUp (bridge : Nat) (handle : HandleId)
  deriving DecidableEq

inductive Step : Tree → Event → Tree → Prop where
  | made {tree : Tree} : Step tree (.made tree.make.1) tree.make.2
  | nested {tree : Tree} {parent : HandleId} :
      tree.AtHand parent → Step tree (.nested parent (tree.nest parent).1) (tree.nest parent).2
  | handed {tree after : Tree} {id : SignalId} {handle : HandleId} :
      tree.Owned id → tree.makeHandle id = .ok (handle, after) → Step tree (.handed id handle) after
  | refused {tree : Tree} {id : SignalId} :
      tree.Owned id → tree.makeHandle id = .error .crash → Step tree (.refused id) tree
  | cloned {tree : Tree} {handle : HandleId} :
      tree.AtHand handle →
      Step tree (.cloned handle (tree.cloneHandle handle).1) (tree.cloneHandle handle).2
  | released {tree : Tree} {handle : HandleId} :
      tree.AtHand handle → Step tree (.released handle) (tree.releaseHandle handle)
  | abandoned {tree : Tree} {id : SignalId} :
      tree.Owned id → Step tree (.abandoned id) (tree.abandon id)
  | triggered {tree : Tree} {id : SignalId} :
      tree.Owned id → Step tree (.triggered id) (tree.trigger id)
  | triggeredBy {tree : Tree} {handle : HandleId} :
      tree.AtHand handle →
      Step tree (.triggeredBy handle (tree.handleSignal handle)) (tree.triggerHandle handle)
  | looked {tree : Tree} {handle : HandleId} :
      tree.AtHand handle →
      Step tree (.looked handle (tree.handleSignal handle) (tree.isTriggered handle)) tree
  | waited {tree : Tree} {handle : HandleId} :
      tree.AtHand handle → tree.waitIsOver handle = true →
      Step tree (.waited handle (tree.handleSignal handle)) tree
  | completed {tree : Tree} {id : SignalId} :
      tree.Owned id → Step tree (.completed id (tree.complete id).1) (tree.complete id).2
  /-- The wait of a bridge for its parent stays over once it is, so that it makes no difference how
  long after it the bridge passes the shutdown on. -/
  | passed {tree : Tree} {index : Nat} {bridge : Bridge} :
      tree.bridges[index]? = some bridge → bridge.waiting = true →
      tree.waitIsOver bridge.parent = true →
      Step tree (.passed index) ((tree.triggerHandle bridge.child).stopWaiting index)
  | noticed {tree : Tree} {index : Nat} {bridge : Bridge} :
      tree.bridges[index]? = some bridge → bridge.waiting = true →
      tree.waitIsOver bridge.child = true → Step tree (.noticed index) (tree.stopWaiting index)
  | gaveUp {tree : Tree} {index : Nat} {bridge : Bridge} {handle : HandleId} :
      tree.bridges[index]? = some bridge → bridge.waiting = false → bridge.Uses handle →
      tree.isHeld handle = true → Step tree (.gaveUp index handle) (tree.releaseHandle handle)

/-- Steps one after the other, with what is seen of them. -/
inductive Runs (start : Tree) : List Event → Tree → Prop where
  | empty : Runs start [] start
  | next {trace : List Event} {tree after : Tree} {event : Event} :
      Runs start trace tree → Step tree event after → Runs start (trace ++ [event]) after

theorem Runs.trans {start middle last : Tree} {earlier later : List Event}
    (first : Runs start earlier middle) (second : Runs middle later last) :
    Runs start (earlier ++ later) last := by
  induction second with
  | empty => simpa using first
  | next _ step ih =>
    rw [← List.append_assoc]
    exact ih.next step

/-! ### What the operations do to signals, handles and bridges -/

namespace Tree

variable (tree : Tree)

@[simp] theorem handleSignal_addHandle (id : SignalId) (handle : HandleId) :
    (tree.addHandle id).2.handleSignal handle =
      if handle = tree.handles.length then id else tree.handleSignal handle := by
  simp only [addHandle, handleSignal, List.getD_eq_getElem?_getD, List.getElem?_append]
  grind

@[simp] theorem isHeld_addHandle (id : SignalId) (handle : HandleId) :
    (tree.addHandle id).2.isHeld handle =
      if handle = tree.handles.length then true else tree.isHeld handle := by
  simp only [addHandle, isHeld, List.getD_eq_getElem?_getD, List.getElem?_append]
  grind

@[simp] theorem length_handles_addHandle (id : SignalId) :
    (tree.addHandle id).2.handles.length = tree.handles.length + 1 :=
  List.length_append

@[simp] theorem handleSignal_releaseHandle (id handle : HandleId) :
    (tree.releaseHandle id).handleSignal handle = tree.handleSignal handle := by
  simp only [releaseHandle, handleSignal, List.getD_eq_getElem?_getD, List.getElem?_modify]
  cases tree.handles[handle]? <;> simp
  split <;> rfl

@[simp] theorem isHeld_releaseHandle (id handle : HandleId) :
    (tree.releaseHandle id).isHeld handle = if handle = id then false else tree.isHeld handle := by
  simp only [releaseHandle, isHeld, List.getD_eq_getElem?_getD, List.getElem?_modify]
  grind

@[simp] theorem length_handles_releaseHandle (id : HandleId) :
    (tree.releaseHandle id).handles.length = tree.handles.length :=
  List.length_modify ..

/-- A signal that is not there is like one that was just made. -/
@[simp] theorem signal_make (id : SignalId) : tree.make.2.signal id = tree.signal id := by
  simp only [make, signal, List.getD_eq_getElem?_getD, List.getElem?_append]
  grind

@[simp] theorem handles_make : tree.make.2.handles = tree.handles := rfl

@[simp] theorem handleSignal_make (handle : HandleId) :
    tree.make.2.handleSignal handle = tree.handleSignal handle :=
  rfl

@[simp] theorem isHeld_make (handle : HandleId) : tree.make.2.isHeld handle = tree.isHeld handle :=
  rfl

@[simp] theorem length_signals_make : tree.make.2.signals.length = tree.signals.length + 1 :=
  List.length_append

@[simp] theorem signal_changeSignal (id other : SignalId) (change : Signal → Signal) :
    (tree.changeSignal id change).signal other =
      if id = other ∧ other < tree.signals.length then change (tree.signal other)
      else tree.signal other := by
  simp only [changeSignal, signal, List.getD_eq_getElem?_getD, List.getElem?_modify]
  grind

@[simp] theorem length_signals_changeSignal (id : SignalId) (change : Signal → Signal) :
    (tree.changeSignal id change).signals.length = tree.signals.length :=
  List.length_modify ..

theorem bridges_stopWaiting {index other : Nat} {after : Bridge} :
    (tree.stopWaiting index).bridges[other]? = some after ↔
      ∃ before, tree.bridges[other]? = some before ∧
        (if index = other then { before with waiting := false } else before) = after := by
  simp only [stopWaiting, List.getElem?_modify]
  cases tree.bridges[other]? <;> simp

theorem bridges_addBridge {index : Nat} {bridge other : Bridge} :
    (tree.addBridge bridge).bridges[index]? = some other ↔
      tree.bridges[index]? = some other ∨ index = tree.bridges.length ∧ bridge = other := by
  rcases Nat.lt_trichotomy index tree.bridges.length with before | rfl | beyond
  · simp [addBridge, List.getElem?_append_left before, before.ne]
  · simp [addBridge]
  · have short : (tree.bridges ++ [bridge]).length ≤ index := by
      rw [List.length_append]
      exact beyond
    simp [addBridge, List.getElem?_eq_none short, List.getElem?_eq_none beyond.le, beyond.ne']

theorem nest_eq (parent : HandleId) :
    tree.nest parent = (tree.signals.length,
      (tree.make.2.addHandle tree.signals.length).2.addBridge
        { parent, child := tree.handles.length }) :=
  rfl

variable {tree} in
theorem lt_of_isHeld {handle : HandleId} (held : tree.isHeld handle = true) :
    handle < tree.handles.length := by
  rcases Nat.lt_or_ge handle tree.handles.length with known | beyond
  · exact known
  · rw [isHeld, List.getD_eq_default _ _ beyond] at held
    contradiction

variable {tree} in
theorem heldHandles_pos {handle : HandleId} (held : tree.isHeld handle = true) :
    0 < tree.heldHandles (tree.handleSignal handle) := by
  have known := lt_of_isHeld held
  have among : tree.handles[handle] ∈ tree.handles.filter fun other =>
      other.held && other.signal == tree.handleSignal handle := by
    rw [isHeld, List.getD_eq_getElem _ _ known] at held
    rw [List.mem_filter, handleSignal, List.getD_eq_getElem _ _ known]
    exact ⟨List.getElem_mem known, by simp [held]⟩
  exact List.length_pos_of_mem among

variable {tree} in
/-- A handle can start a shutdown, so that a wait on it ends with one only. -/
theorem waitIsOver_iff_isTriggered {handle : HandleId} (held : tree.isHeld handle = true) :
    tree.waitIsOver handle = true ↔ tree.isTriggered handle = true := by
  have able : tree.canTrigger (tree.handleSignal handle) = true := by
    simp [canTrigger, heldHandles_pos held]
  simp [waitIsOver, able]

end Tree

end WeatherRelay.Shutdown
