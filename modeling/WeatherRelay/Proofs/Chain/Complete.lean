import WeatherRelay.Proofs.Chain.Order

/-! Whole runs of the chain, from its start on.

Whatever the tasks do and whenever they stop, a handler gets the readings in the order in which they
came in, from the first one on and without a gap. Where nothing is stopped it gets all of them.
-/

set_option autoImplicit false

namespace WeatherRelay.Chain

open Text.Utf8 (Bytes encode)

variable {σ : Type} {incomingSize queueSize : Nat} {backends : List (Consumer σ × σ)}
  {buffer : Bytes} {trace : List Event} {chain after : Chain σ} {event : Event}

/-- All that holds between the places of a chain. -/
structure Sound (queueSize : Nat) (backends : List (Consumer σ × σ)) (trace : List Event)
    (chain : Chain σ) : Prop where
  flow : FanOut.Flow ⟨(Distributor.register queueSize
    (backends.map fun backend => (backend.1.backend, .ok ()))).routes, none⟩ (fanOutTrace trace)
    chain.fanOut
  supplies : Supplies trace chain
  offers : Offers trace chain
  received : ∀ backend, receivedBy backend trace <+: taken trace
  staffs : Staffs backends trace chain
  remains : Remains chain
  length_eq : chain.workers.length = backends.length
  room : 0 < chain.incoming.capacity

theorem Sound.content (sound : Sound queueSize backends trace chain) {backend : Nat} {route : Route}
    (found : chain.fanOut.routes[backend]? = some route) (listening : route.queue.listening = true) :
    receivedBy backend trace ++ route.queue.items =
      FanOut.due chain.fanOut.current (taken trace) backend := by
  rw [← begun_fanOutTrace, ← receivedBy_fanOutTrace]
  exact sound.flow.content found listening

-- Here every backend starts, so each has its route.
theorem length_routes_register (queueSize : Nat) (backends : List (Consumer σ × σ)) :
    (Distributor.register queueSize
      (backends.map fun backend => (backend.1.backend, .ok ()))).routes.length =
      backends.length := by
  rw [Distributor.register_eq, List.length_map, List.filter_eq_self.mpr, List.length_map]
  intro start started
  obtain ⟨_, _, rfl⟩ := List.mem_map.mp started
  exact decide_eq_true rfl

theorem taken_grows (trace : List Event) (event : Event) :
    taken trace <+: taken (trace ++ [event]) := by
  unfold taken
  rw [List.filterMap_append]
  exact List.prefix_append _ _

theorem Step.length_eq (step : Step chain event after) :
    after.workers.length = chain.workers.length := by
  cases step with
  | received | handled | crashed | left => exact List.length_set
  | arrived | queued | shutOut | intakeEnded | took | accepted | passed | answered | stopped
  | shutdown | closed => rfl

theorem Step.capacity_eq (step : Step chain event after) :
    after.incoming.capacity = chain.incoming.capacity := by
  cases step with
  | queued _ accepted =>
    obtain ⟨-, -, rfl⟩ := Queue.offer_eq_taken_iff.mp accepted
    rfl
  | took _ next =>
    rw [(Queue.take?_eq_some_iff.mp next).2]
  | arrived | shutOut | intakeEnded | accepted | passed | answered | stopped | received | handled
  | crashed | left | shutdown | closed => rfl

-- What a backend has just received was in its queue, where all is in order.
theorem Step.received_inOrder {starts : List (String × Attempt Unit)}
    (step : Step chain event after)
    (flow : FanOut.Flow ⟨(Distributor.register queueSize starts).routes, none⟩
      (fanOutTrace (trace ++ [event])) after.fanOut)
    (received : ∀ backend, receivedBy backend trace <+: taken trace) (backend : Nat) :
    receivedBy backend (trace ++ [event]) <+: taken (trace ++ [event]) := by
  cases own : event.receivedBy? backend with
  | none =>
    rw [receivedBy_concat own]
    exact (received backend).trans (taken_grows trace event)
  | some reading =>
    cases step with
    | @received receiver _ _ fanOut _ _ step =>
      have here : receiver = backend := by
        by_contra elsewhere
        cases own.symm.trans (if_neg elsewhere)
      subst here
      obtain ⟨route, found, listening⟩ := step.receiver_listens
      have content := flow.content found listening
      rw [begun_fanOutTrace, receivedBy_fanOutTrace] at content
      refine (List.prefix_append _ route.queue.items).trans ?_
      rw [content]
      exact FanOut.due_prefix_begun _ _ _
    | _ => cases own

theorem sound_ofBackends (incomingSize queueSize : Nat) (backends : List (Consumer σ × σ))
    (buffer : Bytes) :
    Sound queueSize backends [] (ofBackends incomingSize queueSize backends buffer) where
  flow := .idle _ rfl
  supplies := ⟨nofun, rfl, List.prefix_rfl, fun _ => rfl, nofun, nofun⟩
  offers := fun _ _ => rfl
  received := fun _ => List.prefix_rfl
  staffs := by
    intro backend worker found
    obtain ⟨⟨consumer, initial⟩, registered, rfl⟩ :=
      Option.map_eq_some_iff.mp ((List.getElem?_map ..).symm.trans found)
    exact ⟨consumer, initial, registered, rfl, rfl, .nothing⟩
  remains := by
    refine ⟨fun backend worker route here there => ?_, fun backend worker here left => ?_,
      fun _ backend route there => ?_⟩
    · obtain ⟨_, _, rfl⟩ := Option.map_eq_some_iff.mp ((List.getElem?_map ..).symm.trans here)
      rw [FanOut.register_queue there]
      rfl
    · obtain ⟨_, _, rfl⟩ := Option.map_eq_some_iff.mp ((List.getElem?_map ..).symm.trans here)
      cases left
    · rw [FanOut.register_queue there]
  length_eq := List.length_map _
  room := Nat.le_max_right incomingSize 1

theorem Step.sound (step : Step chain event after) (sound : Sound queueSize backends trace chain) :
    Sound queueSize backends (trace ++ [event]) after where
  flow := step.flow sound.flow
  supplies := step.supplies sound.supplies
  offers := step.offers sound.flow sound.offers
  received := step.received_inOrder (step.flow sound.flow) sound.received
  staffs := step.staffs sound.staffs
  remains := step.remains sound.remains
  length_eq := step.length_eq.trans sound.length_eq
  room := step.capacity_eq ▸ sound.room

theorem Runs.sound (run : Runs (ofBackends incomingSize queueSize backends buffer) trace chain) :
    Sound queueSize backends trace chain := by
  induction run with
  | empty => exact sound_ofBackends incomingSize queueSize backends buffer
  | next _ step ih => exact step.sound ih

/-! ### Nothing gets stuck -/

/-- The task of a backend goes on as long as there is a reading for it. -/
theorem Sound.exists_handling (sound : Sound queueSize backends trace chain) {backend : Nat}
    {worker : Worker σ} {route : Route} (workerFound : chain.workers[backend]? = some worker)
    (routeFound : chain.fanOut.routes[backend]? = some route)
    (present : worker.duty.isPresent = true)
    (pending : worker.duty.unhandled ++ route.queue.items ≠ []) :
    ∃ event after, event.IsHandlingBy backend ∧ Step chain event after := by
  have listening : route.queue.listening = true :=
    (sound.remains.present backend worker route workerFound routeFound).trans present
  cases duty : worker.duty with
  | waiting =>
    rw [duty, Duty.unhandled, List.nil_append] at pending
    obtain ⟨reading, rest, items⟩ := List.exists_cons_of_ne_nil pending
    have next : route.queue.take? = some (reading, { route.queue with items := rest }) :=
      Queue.take?_eq_some_iff.mpr ⟨items, rfl⟩
    exact ⟨.received backend reading, _, rfl,
      .received workerFound duty (.received routeFound listening next)⟩
  | handling reading =>
    rcases consumed : worker.consumer.consume reading worker.state with ⟨_ | events, state⟩
    · exact ⟨.crashed backend reading, _, rfl,
        .crashed workerFound duty consumed (.hungUp routeFound listening)⟩
    · exact ⟨.handled backend reading, _, rfl, .handled workerFound duty consumed⟩
  | left | crashed => simp [duty, Duty.isPresent] at present

/-- A reading that is on its way to the queues comes on, at the latest once a backend has made room
for it. -/
theorem Sound.exists_progress (sound : Sound queueSize backends trace chain)
    (working : chain.distributing = true)
    (pending : chain.intake.pending ++ chain.incoming.items ≠ [] ∨ chain.fanOut.current ≠ none) :
    ∃ event after, event.IsProgress ∧ Step chain event after := by
  -- A reading that is being handed out goes first, then the queue in front, then the socket.
  cases current : chain.fanOut.current with
  | some delivery =>
    rcases FanOut.exists_turn current with ⟨event, after, step, offer | rfl⟩ | ⟨route, found, full⟩
    · obtain ⟨backend, rfl | rfl⟩ := offer
      · exact ⟨.offered backend delivery.reading true, _, trivial, .accepted current step⟩
      · exact ⟨.offered backend delivery.reading false, _, trivial, .passed current step⟩
    · exact ⟨.answered delivery.accepted, _, trivial, .answered step⟩
    · -- Who listens at the full queue has something to do.
      obtain ⟨listening, filled⟩ := full
      have inside := (List.getElem?_eq_some_iff.mp found).1
      rw [sound.flow.length_eq, length_routes_register, ← sound.length_eq] at inside
      have workerFound := List.getElem?_eq_getElem inside
      have present := (sound.remains.present _ _ route workerFound found).symm.trans listening
      obtain ⟨first, _, queue, carries⟩ := sound.flow.exists_registered found
      have items : route.queue.items ≠ [] := by
        rw [carries.capacity_eq, queue] at filled
        exact List.ne_nil_of_length_pos (Nat.lt_of_lt_of_le (Nat.le_max_right queueSize 1) filled)
      obtain ⟨event, after, own, step⟩ := sound.exists_handling workerFound found present
        (by simp [items])
      refine ⟨event, after, ?_, step⟩
      cases event with
      | received | handled | crashed => trivial
      | _ => exact own.elim
  | none =>
    rw [current] at pending
    replace pending := pending.resolve_right fun none => none rfl
    cases items : chain.incoming.items with
    | cons reading rest =>
      have idle : chain.fanOut = ⟨chain.fanOut.routes, none⟩ := by rw [← current]
      have begun : FanOut.Step chain.fanOut (.began reading)
          ⟨chain.fanOut.routes, some { reading }⟩ := by
        rw [idle]
        exact .began reading
      have next : chain.incoming.take? = some (reading, { chain.incoming with items := rest }) :=
        Queue.take?_eq_some_iff.mpr ⟨items, rfl⟩
      exact ⟨.took reading, _, trivial, .took working next begun⟩
    | nil =>
      cases intake : chain.intake with
      | queueing reading =>
        have taken : chain.incoming.offer reading =
            .taken { chain.incoming with items := chain.incoming.items ++ [reading] } :=
          Queue.offer_eq_taken_iff.mpr ⟨sound.supplies.listening.trans working, by
            rw [items]
            exact sound.room, rfl⟩
        exact ⟨.queued reading, _, trivial, .queued intake taken⟩
      | waiting | ended => simp [items, intake, Intake.pending] at pending

/-- What a backend gets to see of the datagrams. -/
structure Serves (trace : List Event) (chain : Chain σ) (backend : Nat) (consumer : Consumer σ)
    (initial : σ) (worker : Worker σ) (route : Route) : Prop where
  worker_found : chain.workers[backend]? = some worker
  route_found : chain.fanOut.routes[backend]? = some route
  inOrder : receivedBy backend trace <+: supplied trace
  attends : Attends consumer initial worker (receivedBy backend trace) (handledBy backend trace)
  /-- State and log are those of a backend that handles its readings in a row. -/
  drained : match worker.duty with
    | .crashed reading => consumer.drain (handledBy backend trace ++ [reading]) initial =
      (false, worker.events, worker.state)
    | _ => consumer.drain (handledBy backend trace) initial = (true, worker.events, worker.state)
  /-- Before the distributor stops, all that it has taken over is offered. -/
  offered : chain.distributing = false → offeredTo backend trace = taken trace
  /-- Only a crash ends the task of a backend that is not told to stop. -/
  stays : chain.stopping = false → chain.closed = false →
    worker.duty.isPresent = true ∨ ∃ reading, worker.duty = .crashed reading
  goesOn : worker.duty.isPresent = true → worker.duty.unhandled ++ route.queue.items ≠ [] →
    ∃ event after, event.IsHandlingBy backend ∧ Step chain event after
  /-- Left to itself a backend that waits does with its queue what it does in a row. -/
  drains : worker.duty = .waiting → ∀ alive events state,
    consumer.drain route.queue.items worker.state = (alive, events, state) →
    ∃ duty, (if alive then duty = .waiting
        else ∃ reading ∈ route.queue.items, duty = .crashed reading) ∧
      RunsBy (Event.IsHandlingBy backend) chain (chain.attended backend
        { route with
          queue := if alive then { route.queue with items := [] } else route.queue.hangUp }
        { worker with state, events := worker.events ++ events, duty })
  /-- Nothing is lost on the way to a backend that is still there. -/
  complete : chain.distributing = false → chain.stopping = false →
    worker.duty.isPresent = true → receivedBy backend trace ++ route.queue.items = supplied trace
  finished : chain.distributing = false → chain.stopping = false → worker.duty = .waiting →
    route.queue.items = [] → handledBy backend trace = supplied trace

theorem Sound.serves (sound : Sound queueSize backends trace chain) {backend : Nat}
    {consumer : Consumer σ} {initial : σ} {worker : Worker σ} {route : Route}
    (registered : backends[backend]? = some (consumer, initial))
    (worker_found : chain.workers[backend]? = some worker)
    (route_found : chain.fanOut.routes[backend]? = some route) :
    Serves trace chain backend consumer initial worker route := by
  obtain ⟨_, _, same, attends⟩ := sound.staffs backend worker worker_found
  cases registered.symm.trans same
  have present := sound.remains.present backend worker route worker_found route_found
  have within := (List.getElem?_eq_some_iff.mp route_found).1
  have complete : chain.distributing = false → chain.stopping = false →
      worker.duty.isPresent = true →
      receivedBy backend trace ++ route.queue.items = supplied trace := by
    intro halted untouched stays
    rw [sound.content route_found (present.trans stays), sound.supplies.idle halted]
    exact (sound.supplies.exhausted halted untouched).2
  exact {
    worker_found, route_found, attends, complete
    inOrder := (sound.received backend).trans sound.supplies.inOrder
    drained := attends.drained
    offered := fun halted => by
      rw [sound.offers backend within, sound.supplies.idle halted]
      rfl
    stays := fun untouched opened => by
      cases duty : worker.duty with
      | waiting | handling => exact .inl rfl
      | crashed reading => exact .inr ⟨reading, rfl⟩
      | left =>
        rcases sound.remains.left backend worker worker_found duty with stopping | closed
        · cases untouched.symm.trans stopping
        · cases opened.symm.trans closed
    goesOn := sound.exists_handling worker_found route_found
    drains := fun waiting alive events state drained => by
      rw [← attends.consumer_eq] at drained
      exact drain_runs _ chain worker_found waiting route_found
        (present.trans (by rw [waiting]; rfl)) rfl drained
    finished := fun halted untouched waiting empty => by
      have whole := complete halted untouched (by rw [waiting]; rfl)
      have received := attends.received_eq
      rw [waiting, Duty.unhandled, List.append_nil] at received
      rw [empty, List.append_nil, received] at whole
      exact whole }

theorem Runs.serves (run : Runs (ofBackends incomingSize queueSize backends buffer) trace chain)
    {backend : Nat} {consumer : Consumer σ} {initial : σ}
    (registered : backends[backend]? = some (consumer, initial)) :
    ∃ worker route, Serves trace chain backend consumer initial worker route := by
  have sound := run.sound
  have inside := (List.getElem?_eq_some_iff.mp registered).1
  obtain ⟨worker, worker_found⟩ : ∃ worker, chain.workers[backend]? = some worker :=
    ⟨_, List.getElem?_eq_getElem (sound.length_eq ▸ inside)⟩
  have within : backend < chain.fanOut.routes.length := by
    rw [sound.flow.length_eq, length_routes_register]
    exact inside
  obtain ⟨route, route_found⟩ : ∃ route, chain.fanOut.routes[backend]? = some route :=
    ⟨_, List.getElem?_eq_getElem within⟩
  exact ⟨worker, route, sound.serves registered worker_found route_found⟩

/-- Every run of a chain, in whatever order the tasks take their turns. Each backend is handed the
readings of the datagrams in the order of their arrival, from the first on and without a gap, also
if handlers fail and if there is a shutdown. Where there is none and the distributor has come to its
end, a backend that is still there has handled all of them when its queue is empty. As long as the
distributor works nothing that is on its way gets stuck, and where nobody comes in between, the
distributor and each backend do just what they do by themselves. -/
theorem runs_serve_in_order
    (run : Runs (ofBackends incomingSize queueSize backends buffer) trace chain) :
    chain.workers.length = backends.length ∧
    supplied trace = Ingest.readings (trace.filterMap Event.arrived?) ∧
    taken trace <+: supplied trace ∧
    (∀ (backend : Nat) (consumer : Consumer σ) (initial : σ),
      backends[backend]? = some (consumer, initial) →
      ∃ worker route, Serves trace chain backend consumer initial worker route) ∧
    (chain.distributing = true →
      chain.intake.pending ++ chain.incoming.items ≠ [] ∨ chain.fanOut.current ≠ none →
      ∃ event after, event.IsProgress ∧ Step chain event after) ∧
    (∀ distributor : Distributor, chain.distributing = true →
      chain.fanOut = ⟨distributor.routes, none⟩ →
      ∀ outcome last, distributor.run chain.stopping chain.incoming = (outcome, last) →
        chain.RunsItself outcome last.routes) := by
  have sound := run.sound
  refine ⟨sound.length_eq, supplied_eq_readings trace, sound.supplies.inOrder,
    fun _ _ _ registered => run.serves registered, sound.exists_progress,
    fun distributor working same outcome last ran => ?_⟩
  have runs := run_runs working same
  rw [ran] at runs
  exact runs

/-- A datagram that is no reading and one that is. The handler of the first backend fails on it and
that is logged; both backends are done with it when nothing more comes in. -/
theorem runs_serve_one_reading :
    let failing : Consumer Unit :=
      { backend := "failing", handle := fun reading state =>
        (.error (.failure (.timestampOutOfRange reading.timestamp)), state) }
    ∃ reading trace chain,
      Runs (ofBackends 0 0 [(failing, ()), (.log, ())] (List.replicate 128 0)) trace chain ∧
      trace.filterMap Event.arrived? = [encode "rain", encode
        "\x7b\"timestamp\":\"2024-01-15T12:00:00Z\",\"station_name\":\"garden\"\x7d"] ∧
      supplied trace = [reading] ∧ handledBy 0 trace = supplied trace ∧
      handledBy 1 trace = supplied trace ∧
      chain.workers.map Worker.events = [
        [Consumer.failureEvent "failing" reading (.timestampOutOfRange reading.timestamp)],
        (Consumer.log.drain [reading] ()).2.1] := by
  intro failing
  have garbled : Ingest.parse? (encode "rain") = none := by decide +kernel
  obtain ⟨reading, parsed⟩ : ∃ reading, Ingest.parse? (encode
      "\x7b\"timestamp\":\"2024-01-15T12:00:00Z\",\"station_name\":\"garden\"\x7d") = some reading :=
    Option.isSome_iff_exists.mp (by decide +kernel)
  have short : (encode "rain").length ≤ 128 ∧ (encode
      "\x7b\"timestamp\":\"2024-01-15T12:00:00Z\",\"station_name\":\"garden\"\x7d").length ≤ 128 := by
    decide +kernel
  generalize encode "rain" = garbage at *
  generalize encode _ = datagram at *
  let start := ofBackends 0 0 [(failing, ()), (Consumer.log, ())] (List.replicate 128 0)
  have dropped : Runs start [.arrived garbage] _ :=
    Runs.empty.next (.arrived rfl (by simpa [start, ofBackends] using short.1))
  have arrived : Runs start [.arrived garbage, .arrived datagram] _ :=
    dropped.next (.arrived (by rw [receive_intake, garbled]) (by
      simp [receive, start, ofBackends]
      omega))
  have queued := arrived.next (.queued (by rw [receive_intake, parsed]) rfl)
  have took := queued.next (.took rfl rfl (.began reading))
  have offered := took.next (.accepted rfl (.accepted rfl rfl rfl))
  have received := offered.next
    (show Step _ (.received 0 reading) _ from .received rfl rfl (.received rfl rfl rfl))
  have handled := received.next (show Step _ (.handled 0 reading) _ from .handled rfl rfl rfl)
  have offered := handled.next (.accepted rfl (.accepted rfl rfl rfl))
  have answered := offered.next (.answered (.answered rfl))
  have received := answered.next
    (show Step _ (.received 1 reading) _ from .received rfl rfl (.received rfl rfl rfl))
  have handled := received.next (show Step _ (.handled 1 reading) _ from .handled rfl rfl rfl)
  have ended := handled.next (.intakeEnded rfl)
  have run := ended.next (.stopped rfl rfl (.inr ⟨rfl, rfl⟩))
  obtain ⟨-, -, -, serves, -⟩ := runs_serve_in_order run
  refine ⟨reading, _, _, run, rfl, ?_, ?_, ?_, rfl⟩
  · simp [supplied_eq_readings, Ingest.readings, Event.arrived?, garbled, parsed]
  · obtain ⟨worker, route, first⟩ := serves 0 failing () rfl
    cases first.worker_found
    cases first.route_found
    exact first.finished rfl rfl rfl rfl
  · obtain ⟨worker, route, second⟩ := serves 1 .log () rfl
    cases second.worker_found
    cases second.route_found
    exact second.finished rfl rfl rfl rfl

end WeatherRelay.Chain
