import WeatherRelay.Ingest
import WeatherRelay.Proofs.Chain.Handling
import WeatherRelay.Proofs.FanOut.Lossless

/-! The chain from the datagrams to the handlers.

One task takes datagrams in, one hands their readings out, and each backend has a task of its own
that handles what is in its queue. Any of them may be slow. Each looks for a shutdown only where it
waits for its next item: a reading that has no room yet, a delivery that is under way, and a
handler at work are not interrupted.
-/

set_option autoImplicit false

namespace WeatherRelay

open Text.Utf8 (Bytes)

/-- What the task that takes datagrams in is at. -/
inductive Intake where
  | waiting
  /-- A reading waits for room in the queue. -/
  | queueing (reading : Reading)
  | ended
  deriving DecidableEq

def Intake.pending : Intake → List Reading
  | queueing reading => [reading]
  | waiting | ended => []

/-- What the task of a backend is at. -/
inductive Duty where
  | waiting
  | handling (reading : Reading)
  | left
  /-- The handler crashed on a reading, and the task with it. -/
  | crashed (reading : Reading)
  deriving DecidableEq

namespace Duty

def isPresent : Duty → Bool
  | waiting | handling _ => true
  | left | crashed _ => false

/-- The reading that was handed to the handler and is not handled. -/
def unhandled : Duty → List Reading
  | handling reading | crashed reading => [reading]
  | waiting | left => []

end Duty

/-- The task of a backend, with what its handler keeps and what it has logged. -/
structure Worker (σ : Type) where
  consumer : Consumer σ
  state : σ
  events : List Event := []
  duty : Duty := .waiting

structure Chain (σ : Type) where
  intake : Intake := .waiting
  /-- Datagrams are put into its front. Behind the last one are remains of earlier ones. -/
  buffer : Bytes
  incoming : Queue Reading
  /-- Whether readings are still handed out. -/
  distributing : Bool := true
  fanOut : FanOut
  /-- In the order of their routes. -/
  workers : List (Worker σ)
  /-- Whether there was a shutdown. -/
  stopping : Bool := false
  closed : Bool := false

namespace Chain

variable {σ : Type}

/-- A datagram comes in. It is parsed from the front of the buffer. -/
def receive (chain : Chain σ) (datagram : Bytes) : Chain σ :=
  let buffer := datagram ++ chain.buffer.drop datagram.length
  let intake :=
    match Ingest.parse? (buffer.take datagram.length) with
    | none => .waiting
    | some reading => .queueing reading
  { chain with buffer, intake }

def endIntake (chain : Chain σ) : Chain σ :=
  { chain with intake := .ended, incoming := chain.incoming.endFeed }

def stopDistributing (chain : Chain σ) : Chain σ :=
  { chain with distributing := false, incoming := chain.incoming.hangUp }

/-- A backend is told to stop, or its queue is empty for good. -/
def Dismisses (chain : Chain σ) (queue : Queue Reading) : Prop :=
  chain.stopping = true ∨ chain.closed = true ∨ (queue.items = [] ∧ queue.fed = false)

/-- What is seen of a step. Backends go by their position. -/
inductive Event where
  | arrived (datagram : Bytes)
  | queued (reading : Reading)
  | intakeEnded
  | took (reading : Reading)
  | offered (backend : Nat) (reading : Reading) (accepted : Bool)
  | answered (count : Nat)
  | stopped
  | received (backend : Nat) (reading : Reading)
  | handled (backend : Nat) (reading : Reading)
  | crashed (backend : Nat) (reading : Reading)
  | left (backend : Nat)
  | shutdown
  | closed
  deriving DecidableEq

namespace Event

/-- It is up to the task that hands readings out. -/
def IsDistributing : Event → Prop
  | .took _ | .offered _ _ _ | .answered _ | .stopped => True
  | _ => False

/-- It is up to the task of a backend and brings its readings on. -/
def IsHandlingBy (backend : Nat) : Event → Prop
  | .received other _ | .handled other _ | .crashed other _ => other = backend
  | _ => False

/-- A reading that is on its way comes on by it. -/
def IsProgress : Event → Prop
  | .queued _ | .took _ | .offered _ _ _ | .answered _ => True
  | .received _ _ | .handled _ _ | .crashed _ _ => True
  | _ => False

end Event

/-- The steps of all tasks. No datagram is longer than the buffer, whose size is the limit that
datagrams have. -/
inductive Step : Chain σ → Event → Chain σ → Prop where
  | arrived {chain : Chain σ} {datagram : Bytes} :
      chain.intake = .waiting → datagram.length ≤ chain.buffer.length →
      Step chain (.arrived datagram) (chain.receive datagram)
  | queued {chain : Chain σ} {reading : Reading} {queue : Queue Reading} :
      chain.intake = .queueing reading → chain.incoming.offer reading = .taken queue →
      Step chain (.queued reading) { chain with intake := .waiting, incoming := queue }
  | shutOut {chain : Chain σ} {reading : Reading} :
      chain.intake = .queueing reading → chain.incoming.offer reading = .refused →
      Step chain .intakeEnded chain.endIntake
  /-- There is a shutdown, or nothing can be received any more. -/
  | intakeEnded {chain : Chain σ} :
      chain.intake = .waiting → Step chain .intakeEnded chain.endIntake
  | took {chain : Chain σ} {reading : Reading} {queue : Queue Reading} {fanOut : FanOut} :
      chain.distributing = true → chain.incoming.take? = some (reading, queue) →
      FanOut.Step chain.fanOut (.began reading) fanOut →
      Step chain (.took reading) { chain with incoming := queue, fanOut }
  | accepted {chain : Chain σ} {delivery : Delivery} {backend : Nat} {fanOut : FanOut} :
      chain.fanOut.current = some delivery →
      FanOut.Step chain.fanOut (.accepted backend) fanOut →
      Step chain (.offered backend delivery.reading true) { chain with fanOut }
  | passed {chain : Chain σ} {delivery : Delivery} {backend : Nat} {fanOut : FanOut} :
      chain.fanOut.current = some delivery →
      FanOut.Step chain.fanOut (.passed backend) fanOut →
      Step chain (.offered backend delivery.reading false) { chain with fanOut }
  | answered {chain : Chain σ} {count : Nat} {fanOut : FanOut} :
      FanOut.Step chain.fanOut (.answered count) fanOut →
      Step chain (.answered count) { chain with fanOut }
  | stopped {chain : Chain σ} :
      chain.distributing = true → chain.fanOut.current = none →
      (chain.stopping = true ∨ (chain.incoming.items = [] ∧ chain.incoming.fed = false)) →
      Step chain .stopped chain.stopDistributing
  | received {chain : Chain σ} {backend : Nat} {worker : Worker σ} {reading : Reading}
      {fanOut : FanOut} :
      chain.workers[backend]? = some worker → worker.duty = .waiting →
      FanOut.Step chain.fanOut (.received backend reading) fanOut →
      Step chain (.received backend reading) { chain with
        fanOut
        workers := chain.workers.set backend { worker with duty := .handling reading } }
  | handled {chain : Chain σ} {backend : Nat} {worker : Worker σ} {reading : Reading}
      {events : List WeatherRelay.Event} {state : σ} :
      chain.workers[backend]? = some worker → worker.duty = .handling reading →
      worker.consumer.consume reading worker.state = (some events, state) →
      Step chain (.handled backend reading) { chain with
        workers := chain.workers.set backend
          { worker with duty := .waiting, state, events := worker.events ++ events } }
  | crashed {chain : Chain σ} {backend : Nat} {worker : Worker σ} {reading : Reading} {state : σ}
      {fanOut : FanOut} :
      chain.workers[backend]? = some worker → worker.duty = .handling reading →
      worker.consumer.consume reading worker.state = (none, state) →
      FanOut.Step chain.fanOut (.hungUp backend) fanOut →
      Step chain (.crashed backend reading) { chain with
        fanOut
        workers := chain.workers.set backend { worker with duty := .crashed reading, state } }
  | left {chain : Chain σ} {backend : Nat} {worker : Worker σ} {route : Route} {fanOut : FanOut} :
      chain.workers[backend]? = some worker → worker.duty = .waiting →
      chain.fanOut.routes[backend]? = some route → chain.Dismisses route.queue →
      FanOut.Step chain.fanOut (.hungUp backend) fanOut →
      Step chain (.left backend) { chain with
        fanOut
        workers := chain.workers.set backend { worker with duty := .left } }
  | shutdown {chain : Chain σ} : Step chain .shutdown { chain with stopping := true }
  | closed {chain : Chain σ} {distributor : Distributor} :
      chain.distributing = false → distributor.routes = chain.fanOut.routes →
      Step chain .closed { chain with
        fanOut := ⟨distributor.close.routes, chain.fanOut.current⟩
        closed := true }

/-- Steps one after the other, with what is seen of them. -/
inductive Runs (start : Chain σ) : List Event → Chain σ → Prop where
  | empty : Runs start [] start
  | next {trace : List Event} {chain after : Chain σ} {event : Event} :
      Runs start trace chain → Step chain event after → Runs start (trace ++ [event]) after

theorem Runs.trans {start middle last : Chain σ} {earlier later : List Event}
    (first : Runs start earlier middle) (second : Runs middle later last) :
    Runs start (earlier ++ later) last := by
  induction second with
  | empty => simpa using first
  | next _ step ih =>
    rw [← List.append_assoc]
    exact ih.next step

/-- A run in which nothing is seen but events of one kind. -/
def RunsBy (kind : Event → Prop) (start last : Chain σ) : Prop :=
  ∃ trace, (∀ event ∈ trace, kind event) ∧ Runs start trace last

section RunsBy

variable {kind : Event → Prop} {start middle last : Chain σ} {event : Event}

theorem RunsBy.nothing : RunsBy kind start start := ⟨[], List.forall_mem_nil _, .empty⟩

theorem RunsBy.trans (first : RunsBy kind start middle) (second : RunsBy kind middle last) :
    RunsBy kind start last := by
  obtain ⟨earlier, before, run⟩ := first
  obtain ⟨later, after, more⟩ := second
  exact ⟨earlier ++ later, List.forall_mem_append.mpr ⟨before, after⟩, run.trans more⟩

theorem RunsBy.next (run : RunsBy kind start middle) (step : Step middle event last)
    (allowed : kind event) : RunsBy kind start last :=
  run.trans ⟨[event], List.forall_mem_singleton.mpr allowed, Runs.empty.next step⟩

end RunsBy

/-! ### A distributor with nobody in between -/

theorem delivery_runs {fanOut after : FanOut} {events : List FanOut.Event}
    (run : FanOut.Runs fanOut events after)
    (own : ∀ event ∈ events, event.IsOffer ∨ ∃ count, event = .answered count)
    (chain : Chain σ) (same : chain.fanOut = fanOut) :
    RunsBy Event.IsDistributing chain { chain with fanOut := after } := by
  induction run with
  | empty =>
    subst same
    exact .nothing
  | @next earlier before after event _ step ih =>
    obtain ⟨others, last⟩ := List.forall_mem_append.mp own
    have before := ih others
    rcases last event (List.mem_singleton.mpr rfl) with ⟨backend, rfl | rfl⟩ | ⟨count, rfl⟩
    · obtain ⟨delivery, _, under, _⟩ := step.offered_inv (.inl rfl)
      exact before.next (.accepted under step) trivial
    · obtain ⟨delivery, _, under, _⟩ := step.offered_inv (.inr rfl)
      exact before.next (.passed under step) trivial
    · exact before.next (.answered step) trivial

section Distributor

variable {chain : Chain σ} {distributor : Distributor}

theorem distribute_runs {reading : Reading} {queue : Queue Reading} {outcome : Distribution}
    {after : Distributor} (working : chain.distributing = true)
    (same : chain.fanOut = ⟨distributor.routes, none⟩)
    (next : chain.incoming.take? = some (reading, queue))
    (distributed : distributor.distribute reading = (outcome, after)) :
    ∃ current, RunsBy Event.IsDistributing chain { chain with
        incoming := queue
        fanOut := ⟨after.routes, current⟩ } ∧
      match outcome with
      | .delivered _ => current = none
      | .blocked => ∃ waiting, current = some waiting ∧ waiting.turn after.routes = .waits := by
  let begun : Chain σ := { chain with
    incoming := queue
    fanOut := ⟨distributor.routes, some { reading }⟩ }
  have took : RunsBy Event.IsDistributing chain begun :=
    RunsBy.nothing.next (.took working next (same ▸ .began reading)) trivial
  obtain ⟨undisturbed, -⟩ := FanOut.distribute_eq_iff.mp distributed
  cases undisturbed with
  | @delivered offers count _ only run =>
    have own : ∀ event ∈ offers ++ [.answered count],
        event.IsOffer ∨ ∃ count, event = .answered count :=
      List.forall_mem_append.mpr ⟨fun event offer => .inl (only event offer),
        List.forall_mem_singleton.mpr (.inr ⟨count, rfl⟩)⟩
    exact ⟨none, took.trans (delivery_runs run own begun rfl), rfl⟩
  | @blocked offers waiting _ only run waits =>
    exact ⟨some waiting,
      took.trans (delivery_runs run (fun event offer => .inl (only event offer)) begun rfl),
      waiting, rfl, waits⟩

/-- It waits for room in a queue or for a reading. -/
def Waits (chain : Chain σ) : Prop :=
  chain.distributing = true ∧
    ((chain.fanOut.current = none ∧ chain.incoming.items = []) ∨
      ∃ delivery, chain.fanOut.current = some delivery ∧
        delivery.turn chain.fanOut.routes = .waits)

/-- By its own steps alone the distributor comes as far as it does on the readings that are there. -/
def RunsItself (chain : Chain σ) (outcome : RunOutcome) (routes : List Route) : Prop :=
  ∃ after, RunsBy Event.IsDistributing chain after ∧ after.fanOut.routes = routes ∧
    match outcome with
    | .finished => after.distributing = false ∧ after.fanOut.current = none
    | .waiting => after.Waits

theorem runFeed_runs (readings : List Reading) (chain : Chain σ) (distributor : Distributor)
    (working : chain.distributing = true) (same : chain.fanOut = ⟨distributor.routes, none⟩)
    (items : chain.incoming.items = readings) :
    chain.RunsItself (distributor.runFeed chain.incoming.fed readings).1
      (distributor.runFeed chain.incoming.fed readings).2.routes := by
  induction readings generalizing chain distributor with
  | nil =>
    unfold Distributor.runFeed
    cases fed : chain.incoming.fed with
    | true => exact ⟨chain, .nothing, by rw [same], working, .inl ⟨by rw [same], items⟩⟩
    | false =>
      exact ⟨_, RunsBy.nothing.next (.stopped working (by rw [same]) (.inr ⟨items, fed⟩)) trivial,
        by simp [stopDistributing, same], rfl, by simp [stopDistributing, same]⟩
  | cons reading rest ih =>
    have next : chain.incoming.take? = some (reading, { chain.incoming with items := rest }) :=
      Queue.take?_eq_some_iff.mpr ⟨items, rfl⟩
    unfold Distributor.runFeed
    rcases distributed : distributor.distribute reading with ⟨_ | _, after⟩
    · obtain ⟨_, run, rfl⟩ := distribute_runs working same next distributed
      obtain ⟨last, more, routes, ends⟩ := ih { chain with
        incoming := { chain.incoming with items := rest }
        fanOut := ⟨after.routes, none⟩ } after working rfl rfl
      exact ⟨last, run.trans more, routes, ends⟩
    · obtain ⟨_, run, waiting, rfl, waits⟩ := distribute_runs working same next distributed
      exact ⟨_, run, rfl, working, .inr ⟨waiting, rfl, waits⟩⟩

/-- On a queue of incoming readings a distributor by itself is one of the runs of a chain. -/
theorem run_runs (working : chain.distributing = true)
    (same : chain.fanOut = ⟨distributor.routes, none⟩) :
    chain.RunsItself (distributor.run chain.stopping chain.incoming).1
      (distributor.run chain.stopping chain.incoming).2.routes := by
  unfold Distributor.run
  cases halted : chain.stopping with
  | true =>
    exact ⟨_, RunsBy.nothing.next (.stopped working (by rw [same]) (.inl halted)) trivial,
      by simp [stopDistributing, same], rfl, by simp [stopDistributing, same]⟩
  | false => exact runFeed_runs chain.incoming.items chain distributor working same rfl

end Distributor

/-! ### A backend with nobody in between -/

/-- A worker has gone on, and so has its queue. -/
def attended (chain : Chain σ) (backend : Nat) (route : Route) (worker : Worker σ) : Chain σ :=
  { chain with
    fanOut := ⟨chain.fanOut.routes.set backend route, chain.fanOut.current⟩
    workers := chain.workers.set backend worker }

section Attended

variable {chain : Chain σ} {backend : Nat} {route : Route} {worker : Worker σ}

theorem attended_self (workerFound : chain.workers[backend]? = some worker)
    (routeFound : chain.fanOut.routes[backend]? = some route) :
    chain.attended backend route worker = chain := by
  obtain ⟨_, rfl⟩ := List.getElem?_eq_some_iff.mp workerFound
  obtain ⟨_, rfl⟩ := List.getElem?_eq_some_iff.mp routeFound
  simp only [attended, List.set_getElem_self]

theorem attended_attended (chain : Chain σ) (backend : Nat) (route last : Route)
    (worker lastWorker : Worker σ) :
    (chain.attended backend route worker).attended backend last lastWorker =
      chain.attended backend last lastWorker := by
  simp only [attended, List.set_set]

theorem worker_attended (workerFound : chain.workers[backend]? = some worker) (route : Route)
    (next : Worker σ) : (chain.attended backend route next).workers[backend]? = some next :=
  List.getElem?_set_self (List.getElem?_eq_some_iff.mp workerFound).1

theorem route_attended (routeFound : chain.fanOut.routes[backend]? = some route) (next : Route)
    (worker : Worker σ) :
    (chain.attended backend next worker).fanOut.routes[backend]? = some next :=
  List.getElem?_set_self (List.getElem?_eq_some_iff.mp routeFound).1

end Attended

-- After a crash there is nothing left of the queue, whatever was in it.
theorem drain_runs (readings : List Reading) (chain : Chain σ) {backend : Nat} {worker : Worker σ}
    {route : Route} {alive : Bool} {events : List WeatherRelay.Event} {state : σ}
    (workerFound : chain.workers[backend]? = some worker) (waiting : worker.duty = .waiting)
    (routeFound : chain.fanOut.routes[backend]? = some route)
    (listening : route.queue.listening = true) (items : route.queue.items = readings)
    (drained : worker.consumer.drain readings worker.state = (alive, events, state)) :
    ∃ duty, (if alive then duty = .waiting else ∃ reading ∈ readings, duty = .crashed reading) ∧
      RunsBy (Event.IsHandlingBy backend) chain (chain.attended backend
        { route with
          queue := if alive then { route.queue with items := [] } else route.queue.hangUp }
        { worker with state, events := worker.events ++ events, duty }) := by
  induction readings generalizing chain worker route events with
  | nil =>
    cases drained
    have queue : { route.queue with items := [] } = route.queue := by rw [← items]
    have same : { worker with events := worker.events ++ [], duty := Duty.waiting } = worker := by
      rw [List.append_nil, ← waiting]
    refine ⟨.waiting, rfl, ?_⟩
    simp only [if_true, queue, same, attended_self workerFound routeFound]
    exact .nothing
  | cons reading rest ih =>
    let left : Route := { route with queue := { route.queue with items := rest } }
    let busy := chain.attended backend left { worker with duty := .handling reading }
    have busyFound : busy.workers[backend]? = some { worker with duty := .handling reading } :=
      worker_attended workerFound _ _
    have leftFound : busy.fanOut.routes[backend]? = some left := route_attended routeFound _ _
    have received : RunsBy (Event.IsHandlingBy backend) chain busy :=
      RunsBy.nothing.next (.received workerFound waiting
        (.received routeFound listening (Queue.take?_eq_some_iff.mpr ⟨items, rfl⟩))) rfl
    unfold Consumer.drain at drained
    rcases consumed : worker.consumer.consume reading worker.state with ⟨_ | early, middle⟩
    · rw [consumed] at drained
      cases drained
      have crashed := received.next (.crashed busyFound rfl consumed (.hungUp leftFound listening)) rfl
      refine ⟨.crashed reading, ⟨reading, List.mem_cons_self, rfl⟩, ?_⟩
      rw [List.append_nil]
      exact (attended_attended chain backend left _ _ _).symm ▸ crashed
    · rcases others : worker.consumer.drain rest middle with ⟨stays, more, last⟩
      simp only [consumed, others, Prod.mk.injEq] at drained
      obtain ⟨rfl, rfl, rfl⟩ := drained
      let rested : Worker σ := { worker with
        state := middle, events := worker.events ++ early, duty := .waiting }
      have handled : RunsBy (Event.IsHandlingBy backend) chain
          (chain.attended backend left rested) := by
        have run := received.next (.handled busyFound rfl consumed) rfl
        simpa only [busy, attended, List.set_set] using run
      obtain ⟨duty, ends, run⟩ := ih (chain.attended backend left rested)
        (worker_attended workerFound _ _) rfl (route_attended routeFound _ _) listening rfl others
      refine ⟨duty, ?_, ?_⟩
      · cases stays with
        | true => exact ends
        | false =>
          obtain ⟨crashing, among, same⟩ := ends
          exact ⟨crashing, List.mem_cons_of_mem _ among, same⟩
      · rw [attended_attended, List.append_assoc] at run
        exact handled.trans run

/-- A chain with these backends, before anything happens. -/
def ofBackends (incomingSize queueSize : Nat) (backends : List (Consumer σ × σ)) (buffer : Bytes) :
    Chain σ where
  buffer := buffer
  incoming := { capacity := max incomingSize 1 }
  fanOut :=
    { routes := (Distributor.register queueSize
        (backends.map fun backend => (backend.1.backend, .ok ()))).routes }
  workers := backends.map fun backend => { consumer := backend.1, state := backend.2 }

section Trace

def Event.arrived? : Event → Option Bytes
  | .arrived datagram => some datagram
  | _ => none

def Event.took? : Event → Option Reading
  | .took reading => some reading
  | _ => none

def Event.offeredTo? (backend : Nat) : Event → Option Reading
  | .offered receiver reading _ => if receiver = backend then some reading else none
  | _ => none

def Event.receivedBy? (backend : Nat) : Event → Option Reading
  | .received receiver reading => if receiver = backend then some reading else none
  | _ => none

def Event.handledBy? (backend : Nat) : Event → Option Reading
  | .handled handler reading => if handler = backend then some reading else none
  | _ => none

/-- What the distributor and the queues behind it see of an event. -/
def Event.fanOut? : Event → Option FanOut.Event
  | .took reading => some (.began reading)
  | .offered backend _ true => some (.accepted backend)
  | .offered backend _ false => some (.passed backend)
  | .answered count => some (.answered count)
  | .received backend reading => some (.received backend reading)
  | .crashed backend _ | .left backend => some (.hungUp backend)
  | _ => none

/-- The readings in the datagrams that have arrived, each read from its own bytes only and with its
derived metrics. What is malformed is left out. -/
def supplied (trace : List Event) : List Reading :=
  ((trace.filterMap Event.arrived?).filterMap fun datagram =>
    (Json.read? (Json.symbolsOfBytes datagram)).bind Reading.ofTree?).map Reading.withDerivedMetrics

theorem supplied_eq_readings (trace : List Event) :
    supplied trace = Ingest.readings (trace.filterMap Event.arrived?) := by
  unfold supplied Ingest.readings Ingest.parse?
  rw [List.map_filterMap]

/-- The readings that the distributor has taken over. -/
def taken (trace : List Event) : List Reading := trace.filterMap Event.took?

def offeredTo (backend : Nat) (trace : List Event) : List Reading :=
  trace.filterMap (Event.offeredTo? backend)

/-- The readings that were handed to the handler of a backend. -/
def receivedBy (backend : Nat) (trace : List Event) : List Reading :=
  trace.filterMap (Event.receivedBy? backend)

/-- The readings that the handler of a backend is done with. -/
def handledBy (backend : Nat) (trace : List Event) : List Reading :=
  trace.filterMap (Event.handledBy? backend)

def fanOutTrace (trace : List Event) : List FanOut.Event := trace.filterMap Event.fanOut?

theorem begun_fanOutTrace (trace : List Event) :
    FanOut.begun (fanOutTrace trace) = taken trace := by
  unfold FanOut.begun fanOutTrace taken
  rw [List.filterMap_filterMap]
  congr 1
  funext event
  cases event with
  | offered backend reading accepted => cases accepted <;> rfl
  | _ => rfl

theorem receivedBy_fanOutTrace (backend : Nat) (trace : List Event) :
    FanOut.receivedBy backend (fanOutTrace trace) = receivedBy backend trace := by
  unfold FanOut.receivedBy fanOutTrace receivedBy
  rw [List.filterMap_filterMap]
  congr 1
  funext event
  cases event with
  | offered backend reading accepted => cases accepted <;> rfl
  | _ => rfl

end Trace

end Chain

end WeatherRelay
