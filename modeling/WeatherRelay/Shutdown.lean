import WeatherRelay.Fault

/-! Shutdown signals, their handles, and the bridges that pass a signal down a tree.

Whoever has work to finish holds a handle. A signal is complete once it makes no more handles
and none is held. A nested signal takes over a handle of its parent: a bridge waits for either
side, passes a shutdown of the parent on, and then gives up the handle it took and the one of its
own signal that it waited on.
-/

set_option autoImplicit false

namespace WeatherRelay.Shutdown

abbrev SignalId := Nat

abbrev HandleId := Nat

structure Signal where
  triggered : Bool := false
  /-- Whether the owner of the signal still has it. -/
  owned : Bool := true
  /-- Whether handles may still be made of the signal itself. -/
  accepting : Bool := true
  deriving DecidableEq, Repr

structure Handle where
  signal : SignalId
  held : Bool := true
  deriving DecidableEq, Repr

/-- A task that passes shutdowns from one signal down to another. It holds a handle of each. -/
structure Bridge where
  parent : HandleId
  child : HandleId
  waiting : Bool := true
  deriving DecidableEq, Repr

structure Tree where
  signals : List Signal := []
  handles : List Handle := []
  bridges : List Bridge := []
  deriving DecidableEq, Repr

namespace Tree

def signal (tree : Tree) (id : SignalId) : Signal := tree.signals.getD id {}

def handleSignal (tree : Tree) (id : HandleId) : SignalId := (tree.handles.getD id ⟨0, false⟩).signal

/-- The number of handles of a signal that are held, by bridges too. -/
def heldHandles (tree : Tree) (id : SignalId) : Nat :=
  (tree.handles.filter fun handle => handle.held && handle.signal == id).length

def make (tree : Tree) : SignalId × Tree :=
  (tree.signals.length, { tree with signals := tree.signals ++ [{}] })

def addHandle (tree : Tree) (id : SignalId) : HandleId × Tree :=
  (tree.handles.length, { tree with handles := tree.handles ++ [{ signal := id }] })

/-- A handle of a signal. None can be made after completion was asked for. -/
def makeHandle (tree : Tree) (id : SignalId) : Attempt (HandleId × Tree) :=
  if (tree.signal id).accepting then .ok (tree.addHandle id) else .error .crash

def cloneHandle (tree : Tree) (id : HandleId) : HandleId × Tree :=
  tree.addHandle (tree.handleSignal id)

def releaseHandle (tree : Tree) (id : HandleId) : Tree :=
  { tree with handles := tree.handles.modify id fun handle => { handle with held := false } }

/-- The owner of a signal gives it up. -/
def abandon (tree : Tree) (id : SignalId) : Tree :=
  { tree with
    signals := tree.signals.modify id fun signal =>
      { signal with owned := false, accepting := false } }

def trigger (tree : Tree) (id : SignalId) : Tree :=
  { tree with signals := tree.signals.modify id fun signal => { signal with triggered := true } }

def triggerHandle (tree : Tree) (id : HandleId) : Tree := tree.trigger (tree.handleSignal id)

def isTriggered (tree : Tree) (id : HandleId) : Bool := (tree.signal (tree.handleSignal id)).triggered

/-- Whether anyone is left who could trigger a signal: its owner or the holder of a handle. -/
def canTrigger (tree : Tree) (id : SignalId) : Bool :=
  (tree.signal id).owned || 0 < tree.heldHandles id

/-- Whether a wait on a handle is over: there was a shutdown, or there is nobody left who could
start one. -/
def waitIsOver (tree : Tree) (id : HandleId) : Bool :=
  tree.isTriggered id || !tree.canTrigger (tree.handleSignal id)

/-- Ask for completion: no more handles are made. The flag tells whether none is held. -/
def complete (tree : Tree) (id : SignalId) : Bool × Tree :=
  let closed := { tree with
    signals := tree.signals.modify id fun signal => { signal with accepting := false } }
  (closed.heldHandles id = 0, closed)

/-- A new signal below the one whose handle it takes over. -/
def nest (tree : Tree) (parent : HandleId) : SignalId × Tree :=
  let (signal, tree) := tree.make
  let (child, tree) := tree.addHandle signal
  (signal, { tree with bridges := tree.bridges ++ [{ parent, child }] })

/-- The step of a bridge that waits no more, if that is so. -/
def bridgeStep? (tree : Tree) (index : Nat) : Option Tree :=
  match tree.bridges[index]? with
  | none => none
  | some bridge =>
    if !bridge.waiting then none
    else
      let release (tree : Tree) : Tree :=
        let tree := (tree.releaseHandle bridge.parent).releaseHandle bridge.child
        { tree with bridges := tree.bridges.set index { bridge with waiting := false } }
      if tree.waitIsOver bridge.parent then some (release (tree.triggerHandle bridge.child))
      else if tree.waitIsOver bridge.child then some (release tree)
      else none

/-- A step of the first bridge that has one. -/
def anyBridgeStep? (tree : Tree) : Option Tree :=
  (List.range tree.bridges.length).findSome? tree.bridgeStep?

def settleWithin (steps : Nat) (tree : Tree) : Tree :=
  match steps with
  | 0 => tree
  | steps + 1 =>
    match tree.anyBridgeStep? with
    | none => tree
    | some tree => settleWithin steps tree

/-- Let all bridges run until they wait. Each takes one step in its life. -/
def settle (tree : Tree) : Tree := settleWithin tree.bridges.length tree

end Tree

end WeatherRelay.Shutdown
