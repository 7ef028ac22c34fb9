import WeatherRelay.Proofs.Chain.System

/-! Nothing is lost, doubled or out of order at any place where a reading changes hands.

Each invariant speaks of one such place and is carried over every step by itself: datagrams to the
distributor, the distributor to the queues, the queues to the handlers.
-/

set_option autoImplicit false

namespace WeatherRelay

open Text.Utf8 (Bytes)

namespace Chain

variable {σ : Type} {chain after : Chain σ} {event : Event} {trace : List Event}

section Concat

theorem supplied_arrived (trace : List Event) (datagram : Bytes) :
    supplied (trace ++ [.arrived datagram]) =
      supplied trace ++ (Ingest.parse? datagram).toList := by
  rw [supplied_eq_readings, supplied_eq_readings]
  unfold Ingest.readings
  rw [List.filterMap_append, List.filterMap_append]
  cases parsed : Ingest.parse? datagram <;> simp [Event.arrived?, parsed]

theorem supplied_concat (other : event.arrived? = none) :
    supplied (trace ++ [event]) = supplied trace := by
  simp [supplied, other]

theorem taken_took (trace : List Event) (reading : Reading) :
    taken (trace ++ [.took reading]) = taken trace ++ [reading] := by
  simp [taken, Event.took?]

theorem taken_concat (other : event.took? = none) : taken (trace ++ [event]) = taken trace := by
  simp [taken, other]

theorem fanOutTrace_concat (trace : List Event) (event : Event) :
    fanOutTrace (trace ++ [event]) = fanOutTrace trace ++ event.fanOut?.toList := by
  unfold fanOutTrace
  rw [List.filterMap_append]
  cases seen : event.fanOut? <;> simp [seen]

end Concat

theorem receive_intake (chain : Chain σ) (datagram : Bytes) :
    (chain.receive datagram).intake =
      match Ingest.parse? datagram with
      | none => .waiting
      | some reading => .queueing reading := by
  have front : (datagram ++ chain.buffer.drop datagram.length).take datagram.length = datagram :=
    List.take_left
  cases parsed : Ingest.parse? datagram with
  | none => simp only [receive, front, parsed]
  | some reading => simp only [receive, front, parsed]

/-- What a step does to the distributor and the queues behind it. -/
theorem Step.fanOut_steps (step : Step chain event after) :
    (∃ seen, event.fanOut? = some seen ∧ FanOut.Step chain.fanOut seen after.fanOut) ∨
      (event.fanOut? = none ∧ (after.fanOut = chain.fanOut ∨
        ∃ distributor : Distributor, distributor.routes = chain.fanOut.routes ∧
          after.fanOut = ⟨distributor.close.routes, chain.fanOut.current⟩ ∧ event = .closed)) := by
  cases step with
  | took _ _ began => exact .inl ⟨_, rfl, began⟩
  | accepted _ accepted => exact .inl ⟨_, rfl, accepted⟩
  | passed _ passed => exact .inl ⟨_, rfl, passed⟩
  | answered answered => exact .inl ⟨_, rfl, answered⟩
  | received _ _ received => exact .inl ⟨_, rfl, received⟩
  | crashed _ _ _ hungUp => exact .inl ⟨_, rfl, hungUp⟩
  | left _ _ _ _ hungUp => exact .inl ⟨_, rfl, hungUp⟩
  | closed _ same => exact .inr ⟨rfl, .inr ⟨_, same, rfl, rfl⟩⟩
  | arrived | queued | shutOut | intakeEnded | stopped | handled | shutdown =>
    exact .inr ⟨rfl, .inl rfl⟩

/-- To the distributor and the queues a run of the chain is one of their own. -/
theorem Step.flow {start : FanOut} (step : Step chain event after)
    (flow : FanOut.Flow start (fanOutTrace trace) chain.fanOut) :
    FanOut.Flow start (fanOutTrace (trace ++ [event])) after.fanOut := by
  rw [fanOutTrace_concat]
  rcases step.fanOut_steps with ⟨seen, same, step⟩ | ⟨none, same | ⟨distributor, routes, same, -⟩⟩
  · rw [same]
    exact flow.step step
  · rw [none, same, Option.toList_none, List.append_nil]
    exact flow
  · rw [none, same, Option.toList_none, List.append_nil]
    exact FanOut.Flow.close flow routes

/-! ### From the datagrams to the distributor -/

/-- What the distributor has taken over is the beginning of what came in, and all the rest is on
its way while the distributor works. -/
structure Supplies (trace : List Event) (chain : Chain σ) : Prop where
  fed : chain.incoming.fed = false → chain.intake = .ended
  listening : chain.incoming.listening = chain.distributing
  inOrder : taken trace <+: supplied trace
  complete : chain.distributing = true →
    taken trace ++ chain.incoming.items ++ chain.intake.pending = supplied trace
  idle : chain.distributing = false → chain.fanOut.current = none
  exhausted : chain.distributing = false → chain.stopping = false →
    chain.intake = .ended ∧ taken trace = supplied trace

theorem Supplies.carry (supplies : Supplies trace chain) (arrived : event.arrived? = none)
    (took : event.took? = none) (intake : after.intake = chain.intake)
    (incoming : after.incoming = chain.incoming)
    (distributing : after.distributing = chain.distributing)
    (stopping : after.stopping = false → chain.stopping = false)
    (idle : chain.fanOut.current = none → after.fanOut.current = none) :
    Supplies (trace ++ [event]) after where
  fed := by rw [intake, incoming]; exact supplies.fed
  listening := by rw [incoming, distributing]; exact supplies.listening
  inOrder := by rw [taken_concat took, supplied_concat arrived]; exact supplies.inOrder
  complete := by
    rw [taken_concat took, supplied_concat arrived, intake, incoming, distributing]
    exact supplies.complete
  idle := by rw [distributing]; exact fun halted => idle (supplies.idle halted)
  exhausted := by
    rw [taken_concat took, supplied_concat arrived, intake, distributing]
    exact fun halted untouched => supplies.exhausted halted (stopping untouched)

theorem Step.supplies (step : Step chain event after) (supplies : Supplies trace chain) :
    Supplies (trace ++ [event]) after := by
  cases step with
  | @arrived datagram waiting =>
    refine ⟨fun unfed => ?_, supplies.listening, ?_, fun working => ?_, supplies.idle,
      fun halted untouched => ?_⟩
    · cases waiting.symm.trans (supplies.fed unfed)
    · rw [taken_concat rfl, supplied_arrived]
      exact supplies.inOrder.trans (List.prefix_append _ _)
    · have complete := supplies.complete working
      rw [waiting, Intake.pending, List.append_nil] at complete
      rw [taken_concat rfl, supplied_arrived, receive_intake, ← complete]
      cases Ingest.parse? datagram <;> rfl
    · cases waiting.symm.trans (supplies.exhausted halted untouched).1
  | @queued reading queue queueing accepted =>
    obtain ⟨listening, _, rfl⟩ := Queue.offer_eq_taken_iff.mp accepted
    have working : chain.distributing = true := supplies.listening.symm.trans listening
    refine ⟨fun unfed => ?_, supplies.listening, ?_, fun _ => ?_, fun halted => ?_, fun halted => ?_⟩
    · cases queueing.symm.trans (supplies.fed unfed)
    · rw [taken_concat rfl, supplied_concat rfl]
      exact supplies.inOrder
    · have complete := supplies.complete working
      rw [queueing, Intake.pending] at complete
      rw [taken_concat rfl, supplied_concat rfl, ← complete]
      simp [Intake.pending]
    · cases working.symm.trans halted
    · cases working.symm.trans halted
  | @shutOut reading queueing refused =>
    have halted : chain.distributing = false :=
      supplies.listening.symm.trans (Queue.offer_eq_refused_iff.mp refused)
    refine ⟨fun _ => rfl, supplies.listening, ?_, fun working => ?_, supplies.idle,
      fun _ untouched => ?_⟩
    · rw [taken_concat rfl, supplied_concat rfl]
      exact supplies.inOrder
    · cases halted.symm.trans working
    · cases queueing.symm.trans (supplies.exhausted halted untouched).1
  | intakeEnded waiting =>
    refine ⟨fun _ => rfl, supplies.listening, ?_, fun working => ?_, supplies.idle,
      fun halted untouched => ?_⟩
    · rw [taken_concat rfl, supplied_concat rfl]
      exact supplies.inOrder
    · have complete := supplies.complete working
      rw [waiting] at complete
      rw [taken_concat rfl, supplied_concat rfl]
      exact complete
    · cases waiting.symm.trans (supplies.exhausted halted untouched).1
  | @took reading queue fanOut working next began =>
    obtain ⟨items, rest⟩ := Queue.take?_eq_some_iff.mp next
    have fed : queue.fed = chain.incoming.fed := by rw [rest]
    have listening : queue.listening = chain.incoming.listening := by rw [rest]
    have complete := supplies.complete working
    rw [items] at complete
    have grown : taken (trace ++ [.took reading]) ++ queue.items ++ chain.intake.pending =
        supplied (trace ++ [.took reading]) := by
      rw [taken_took, supplied_concat rfl, ← complete]
      simp
    refine ⟨fun unfed => supplies.fed (fed.symm.trans unfed), listening.trans supplies.listening, ?_,
      fun _ => grown, fun halted => ?_, fun halted => ?_⟩
    · rw [← grown, List.append_assoc]
      exact List.prefix_append _ _
    · cases working.symm.trans halted
    · cases working.symm.trans halted
  | stopped working idle done =>
    refine ⟨supplies.fed, rfl, ?_, nofun, fun _ => idle, fun _ untouched => ?_⟩
    · rw [taken_concat rfl, supplied_concat rfl]
      exact supplies.inOrder
    · rcases done with stopping | ⟨empty, unfed⟩
      · cases untouched.symm.trans stopping
      · have complete := supplies.complete working
        have ended := supplies.fed unfed
        rw [empty, ended] at complete
        rw [taken_concat rfl, supplied_concat rfl]
        exact ⟨ended, by simpa [Intake.pending] using complete⟩
  | accepted under => exact supplies.carry rfl rfl rfl rfl rfl id fun none => by simp [none] at under
  | passed under => exact supplies.carry rfl rfl rfl rfl rfl id fun none => by simp [none] at under
  | answered answered =>
    obtain ⟨delivery, under, _⟩ := answered.answered_inv
    exact supplies.carry rfl rfl rfl rfl rfl id fun none => by simp [none] at under
  | received _ _ received =>
    exact supplies.carry rfl rfl rfl rfl rfl id fun none =>
      received.received_inv.1.trans none
  | crashed _ _ _ hungUp =>
    exact supplies.carry rfl rfl rfl rfl rfl id fun none =>
      hungUp.hungUp_inv.1.trans none
  | left _ _ _ _ hungUp =>
    exact supplies.carry rfl rfl rfl rfl rfl id fun none => hungUp.hungUp_inv.1.trans none
  | handled => exact supplies.carry rfl rfl rfl rfl rfl id id
  | shutdown => exact supplies.carry rfl rfl rfl rfl rfl nofun id
  | closed => exact supplies.carry rfl rfl rfl rfl rfl id id

/-! ### From the distributor to the queues -/

theorem offeredTo_concat {backend : Nat} (other : event.offeredTo? backend = none) :
    offeredTo backend (trace ++ [event]) = offeredTo backend trace := by
  simp [offeredTo, other]

theorem offeredTo_offered (backend : Nat) (trace : List Event) (reading : Reading)
    (accepted : Bool) :
    offeredTo backend (trace ++ [.offered backend reading accepted]) =
      offeredTo backend trace ++ [reading] := by
  simp [offeredTo, Event.offeredTo?]

/-- Each backend was offered what was taken over, but for a delivery that has not come to it. -/
def Offers (trace : List Event) (chain : Chain σ) : Prop :=
  ∀ backend, backend < chain.fanOut.routes.length →
    offeredTo backend trace = FanOut.due chain.fanOut.current (taken trace) backend

theorem Offers.carry (offers : Offers trace chain) (took : event.took? = none)
    (offered : ∀ backend, event.offeredTo? backend = none)
    (current : after.fanOut.current = chain.fanOut.current)
    (length : after.fanOut.routes.length = chain.fanOut.routes.length) :
    Offers (trace ++ [event]) after := by
  intro backend inside
  rw [length] at inside
  rw [offeredTo_concat (offered backend), taken_concat took, current]
  exact offers backend inside

-- A delivery has come past one backend more, to which its reading was offered.
theorem Offers.offered (offers : Offers trace chain) {delivery next : Delivery} {backend : Nat}
    {accepted : Bool} (last : (taken trace).getLast? = some delivery.reading)
    (under : chain.fanOut.current = some delivery) (here : delivery.position = backend)
    (current : after.fanOut.current = some next) (moved : next.position = delivery.position + 1)
    (length : after.fanOut.routes.length = chain.fanOut.routes.length) :
    Offers (trace ++ [.offered backend delivery.reading accepted]) after := by
  subst here
  intro backend inside
  rw [length] at inside
  have offers := offers backend inside
  rw [under] at offers
  rw [taken_concat rfl, current]
  by_cases here : backend = delivery.position
  · subst here
    rw [offeredTo_offered, FanOut.due_here moved last, offers]
  · have away : Event.offeredTo? backend (.offered delivery.position delivery.reading accepted) =
        none := if_neg (Ne.symm here)
    rw [offeredTo_concat away, FanOut.due_moved moved here, offers]

theorem Step.offers {start : FanOut} (step : Step chain event after)
    (flow : FanOut.Flow start (fanOutTrace trace) chain.fanOut) (offers : Offers trace chain) :
    Offers (trace ++ [event]) after := by
  have last : ∀ delivery, chain.fanOut.current = some delivery →
      (taken trace).getLast? = some delivery.reading := by
    intro delivery under
    rw [← begun_fanOutTrace]
    exact flow.current_begun delivery under
  cases step with
  | took _ _ began =>
    obtain ⟨none, rfl⟩ := began.began_inv
    intro backend inside
    rw [offeredTo_concat rfl, taken_took, FanOut.due_began, offers backend inside, none]
    rfl
  | @accepted delivery _ _ under accepted =>
    obtain ⟨_, next, same, here, current, moved, length⟩ := accepted.offered_inv (.inl rfl)
    cases under.symm.trans same
    exact offers.offered (last delivery under) under here current moved length
  | @passed delivery _ _ under passed =>
    obtain ⟨_, next, same, here, current, moved, length⟩ := passed.offered_inv (.inr rfl)
    cases under.symm.trans same
    exact offers.offered (last delivery under) under here current moved length
  | answered answered =>
    obtain ⟨delivery, under, past, rfl⟩ := answered.answered_inv
    intro backend inside
    have offers := offers backend inside
    rw [under, FanOut.due_arrived (Nat.lt_of_lt_of_le inside past)] at offers
    rw [offeredTo_concat rfl, taken_concat rfl]
    exact offers
  | received _ _ received =>
    exact offers.carry rfl (fun _ => rfl) received.received_inv.1 received.received_inv.2
  | crashed _ _ _ hungUp | left _ _ _ _ hungUp =>
    exact offers.carry rfl (fun _ => rfl) hungUp.hungUp_inv.1 hungUp.hungUp_inv.2
  | closed _ same =>
    refine offers.carry rfl (fun _ => rfl) rfl ?_
    simp [Distributor.close, same]
  | arrived | queued | shutOut | intakeEnded | stopped | handled | shutdown =>
    exact offers.carry rfl (fun _ => rfl) rfl rfl

/-! ### From the queues to the handlers -/

theorem receivedBy_concat {backend : Nat} (other : event.receivedBy? backend = none) :
    receivedBy backend (trace ++ [event]) = receivedBy backend trace := by
  simp [receivedBy, other]

theorem receivedBy_received (backend : Nat) (trace : List Event) (reading : Reading) :
    receivedBy backend (trace ++ [.received backend reading]) =
      receivedBy backend trace ++ [reading] := by
  simp [receivedBy, Event.receivedBy?]

theorem handledBy_concat {backend : Nat} (other : event.handledBy? backend = none) :
    handledBy backend (trace ++ [event]) = handledBy backend trace := by
  simp [handledBy, other]

theorem handledBy_handled (backend : Nat) (trace : List Event) (reading : Reading) :
    handledBy backend (trace ++ [.handled backend reading]) =
      handledBy backend trace ++ [reading] := by
  simp [handledBy, Event.handledBy?]

/-- What a backend has made of the readings it received. Its handler is done with all of them but
the last one at most. State and log are what it made of these readings one after the other, each of
them handled in the state that the one before it left, also where it failed on that one. -/
structure Attends (consumer : Consumer σ) (initial : σ) (worker : Worker σ)
    (received handled : List Reading) : Prop where
  consumer_eq : worker.consumer = consumer
  received_eq : received = handled ++ worker.duty.unhandled
  handles : match worker.duty with
    | .crashed reading => ∃ before, consumer.Handles initial handled worker.events before ∧
      consumer.handle reading before = (.error .crash, worker.state)
    | _ => consumer.Handles initial handled worker.events worker.state

theorem Attends.drained {consumer : Consumer σ} {initial : σ} {worker : Worker σ}
    {received handled : List Reading} (attends : Attends consumer initial worker received handled) :
    match worker.duty with
    | .crashed reading =>
      consumer.drain (handled ++ [reading]) initial = (false, worker.events, worker.state)
    | _ => consumer.drain handled initial = (true, worker.events, worker.state) := by
  have handles := attends.handles
  cases duty : worker.duty with
  | crashed reading =>
    rw [duty] at handles
    obtain ⟨before, handles, crashed⟩ := handles
    exact handles.crashed crashed []
  | waiting | handling | left =>
    rw [duty] at handles
    exact handles.drained

/-- Every worker is the one of its backend. -/
def Staffs (backends : List (Consumer σ × σ)) (trace : List Event) (chain : Chain σ) : Prop :=
  ∀ (backend : Nat) (worker : Worker σ), chain.workers[backend]? = some worker →
    ∃ consumer initial, backends[backend]? = some (consumer, initial) ∧
      Attends consumer initial worker (receivedBy backend trace) (handledBy backend trace)

theorem Staffs.carry {backends : List (Consumer σ × σ)} (staffs : Staffs backends trace chain)
    (received : ∀ backend, event.receivedBy? backend = none)
    (handled : ∀ backend, event.handledBy? backend = none)
    (workers : after.workers = chain.workers) : Staffs backends (trace ++ [event]) after := by
  intro backend worker found
  rw [workers] at found
  rw [receivedBy_concat (received backend), handledBy_concat (handled backend)]
  exact staffs backend worker found

-- One worker has moved on, and nothing is new for the others.
theorem Staffs.set {backends : List (Consumer σ × σ)} (staffs : Staffs backends trace chain)
    {position : Nat} {worker next : Worker σ} (found : chain.workers[position]? = some worker)
    (workers : after.workers = chain.workers.set position next)
    (received : ∀ backend, backend ≠ position → event.receivedBy? backend = none)
    (handled : ∀ backend, backend ≠ position → event.handledBy? backend = none)
    (moves : ∀ consumer initial,
      Attends consumer initial worker (receivedBy position trace) (handledBy position trace) →
      Attends consumer initial next (receivedBy position (trace ++ [event]))
        (handledBy position (trace ++ [event]))) :
    Staffs backends (trace ++ [event]) after := by
  intro backend other there
  rw [workers] at there
  rcases FanOut.getElem?_set_cases there with ⟨rfl, rfl⟩ | ⟨elsewhere, same⟩
  · obtain ⟨consumer, initial, registered, attends⟩ := staffs _ worker found
    exact ⟨consumer, initial, registered, moves consumer initial attends⟩
  · rw [receivedBy_concat (received backend elsewhere), handledBy_concat (handled backend elsewhere)]
    exact staffs backend other same

theorem Step.staffs {backends : List (Consumer σ × σ)} (step : Step chain event after)
    (staffs : Staffs backends trace chain) : Staffs backends (trace ++ [event]) after := by
  cases step with
  | @received backend worker reading _ found waiting =>
    refine staffs.set found rfl (fun _ other => if_neg (Ne.symm other)) (fun _ _ => rfl) ?_
    rintro consumer initial ⟨rfl, received, handles⟩
    rw [waiting] at received handles
    rw [receivedBy_received, handledBy_concat rfl, received]
    exact ⟨rfl, by simp [Duty.unhandled], handles⟩
  | @handled backend worker reading events state found handling consumed =>
    refine staffs.set found rfl (fun _ _ => rfl) (fun _ other => if_neg (Ne.symm other)) ?_
    rintro consumer initial ⟨rfl, received, handles⟩
    rw [handling] at received handles
    rw [receivedBy_concat rfl, handledBy_handled, received]
    exact ⟨rfl, by simp [Duty.unhandled], handles.next consumed⟩
  | @crashed backend worker reading state _ found handling consumed =>
    refine staffs.set found rfl (fun _ _ => rfl) (fun _ _ => rfl) ?_
    rintro consumer initial ⟨rfl, received, handles⟩
    rw [handling] at received handles
    rw [receivedBy_concat rfl, handledBy_concat rfl, received]
    exact ⟨rfl, rfl, _, handles, Consumer.consume_eq_none_iff.mp consumed⟩
  | @left backend worker route _ found waiting =>
    refine staffs.set found rfl (fun _ _ => rfl) (fun _ _ => rfl) ?_
    rintro consumer initial ⟨rfl, received, handles⟩
    rw [waiting] at received handles
    rw [receivedBy_concat rfl, handledBy_concat rfl, received]
    exact ⟨rfl, rfl, handles⟩
  | arrived | queued | shutOut | intakeEnded | took | accepted | passed | answered | stopped
  | shutdown | closed => exact staffs.carry (fun _ => rfl) (fun _ => rfl) rfl

/-- What becomes of a route in a step of the chain. -/
theorem Step.route_inv (step : Step chain event after) {backend : Nat} {route : Route}
    (there : after.fanOut.routes[backend]? = some route) :
    ∃ before, chain.fanOut.routes[backend]? = some before ∧
      (event ≠ .closed → route.queue.fed = before.queue.fed) ∧
      (event.fanOut? ≠ some (.hungUp backend) → route.queue.listening = before.queue.listening) ∧
      (event.fanOut? = some (.hungUp backend) → route.queue.listening = false) := by
  rcases step.fanOut_steps with ⟨seen, same, step⟩ | ⟨none, same | ⟨distributor, routes, same, rfl⟩⟩
  · obtain ⟨before, found, fed, stays, leaves⟩ := step.route_inv there
    refine ⟨before, found, fun _ => fed, fun other => stays fun here => other (here ▸ same),
      fun hangs => leaves (Option.some.inj (same.symm.trans hangs))⟩
  · rw [same] at there
    exact ⟨route, there, fun _ => rfl, fun _ => rfl, fun hangs => by cases none.symm.trans hangs⟩
  · rw [same] at there
    obtain ⟨before, found, rfl⟩ :=
      Option.map_eq_some_iff.mp ((List.getElem?_map ..).symm.trans there)
    rw [routes] at found
    exact ⟨before, found, fun other => absurd rfl other, fun _ => rfl, nofun⟩

/-- What becomes of a worker in a step of the chain. -/
theorem Step.worker_inv (step : Step chain event after) {backend : Nat} {worker : Worker σ}
    (there : after.workers[backend]? = some worker) :
    ∃ before, chain.workers[backend]? = some before ∧
      (event.fanOut? ≠ some (.hungUp backend) → worker.duty.isPresent = before.duty.isPresent) ∧
      (event.fanOut? = some (.hungUp backend) → worker.duty.isPresent = false) ∧
      (worker.duty = .left → before.duty = .left ∨
        ∃ route, chain.fanOut.routes[backend]? = some route ∧ chain.Dismisses route.queue) := by
  cases step with
  | received found waiting =>
    rcases FanOut.getElem?_set_cases there with ⟨rfl, rfl⟩ | ⟨_, same⟩
    · exact ⟨_, found, fun _ => by rw [waiting]; rfl, nofun, nofun⟩
    · exact ⟨worker, same, fun _ => rfl, nofun, .inl⟩
  | handled found handling =>
    rcases FanOut.getElem?_set_cases there with ⟨rfl, rfl⟩ | ⟨_, same⟩
    · exact ⟨_, found, fun _ => by rw [handling]; rfl, nofun, nofun⟩
    · exact ⟨worker, same, fun _ => rfl, nofun, .inl⟩
  | crashed found =>
    rcases FanOut.getElem?_set_cases there with ⟨rfl, rfl⟩ | ⟨elsewhere, same⟩
    · exact ⟨_, found, fun other => absurd rfl other, fun _ => rfl, nofun⟩
    · refine ⟨worker, same, fun _ => rfl, fun here => ?_, .inl⟩
      cases here
      exact absurd rfl elsewhere
  | left found _ route dismissed =>
    rcases FanOut.getElem?_set_cases there with ⟨rfl, rfl⟩ | ⟨elsewhere, same⟩
    · exact ⟨_, found, fun other => absurd rfl other, fun _ => rfl,
        fun _ => .inr ⟨_, route, dismissed⟩⟩
    · refine ⟨worker, same, fun _ => rfl, fun here => ?_, .inl⟩
      cases here
      exact absurd rfl elsewhere
  | arrived | queued | shutOut | intakeEnded | took | accepted | passed | answered | stopped
  | shutdown | closed => exact ⟨worker, there, fun _ => rfl, nofun, .inl⟩

/-- A backend listens as long as its task is there, and without a shutdown or an end of its feed
the task does not leave. -/
structure Remains (chain : Chain σ) : Prop where
  present : ∀ (backend : Nat) (worker : Worker σ) (route : Route),
    chain.workers[backend]? = some worker → chain.fanOut.routes[backend]? = some route →
    route.queue.listening = worker.duty.isPresent
  left : ∀ (backend : Nat) (worker : Worker σ), chain.workers[backend]? = some worker →
    worker.duty = .left → chain.stopping = true ∨ chain.closed = true
  fed : chain.closed = false → ∀ (backend : Nat) (route : Route),
    chain.fanOut.routes[backend]? = some route → route.queue.fed = true

theorem Step.flags (step : Step chain event after) :
    (chain.stopping = true → after.stopping = true) ∧ (chain.closed = true → after.closed = true) ∧
      (after.closed = false → event ≠ .closed) := by
  cases step with
  | shutdown => exact ⟨fun _ => rfl, id, nofun⟩
  | closed => exact ⟨id, fun _ => rfl, nofun⟩
  | arrived | queued | shutOut | intakeEnded | took | accepted | passed | answered | stopped
  | received | handled | crashed | left => exact ⟨id, id, nofun⟩

theorem Step.remains (step : Step chain event after) (remains : Remains chain) : Remains after := by
  obtain ⟨stopping, closed, closing⟩ := step.flags
  refine ⟨fun backend worker route foundWorker foundRoute => ?_, fun backend worker found left => ?_,
    fun opened backend route found => ?_⟩
  · obtain ⟨earlier, here, worker_stays, worker_leaves, _⟩ := step.worker_inv foundWorker
    obtain ⟨before, there, _, route_stays, route_leaves⟩ := step.route_inv foundRoute
    by_cases leaves : event.fanOut? = some (.hungUp backend)
    · rw [worker_leaves leaves, route_leaves leaves]
    · rw [worker_stays leaves, route_stays leaves]
      exact remains.present backend earlier before here there
  · obtain ⟨earlier, here, _, _, leaving⟩ := step.worker_inv found
    rcases leaving left with already | ⟨route, foundRoute, dismissed⟩
    · exact (remains.left backend earlier here already).imp stopping closed
    · rcases dismissed with told | shut | ⟨_, unfed⟩
      · exact .inl (stopping told)
      · exact .inr (closed shut)
      · -- Nobody but a closing distributor ends the feed.
        cases opened : chain.closed with
        | true => exact .inr (closed opened)
        | false => cases (remains.fed opened backend route foundRoute).symm.trans unfed
  · obtain ⟨before, there, fed, _⟩ := step.route_inv found
    have still : chain.closed = false := by
      cases already : chain.closed with
      | false => rfl
      | true => cases opened.symm.trans (closed already)
    exact (fed (closing opened)).trans (remains.fed still backend before there)

end Chain

end WeatherRelay
