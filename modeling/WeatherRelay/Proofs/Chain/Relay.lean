import WeatherRelay.Proofs.Chain.Complete
import WeatherRelay.Proofs.Chain.Pipeline
import WeatherRelay.Relay

/-! What the relay comes to that distributes readings one by one is what its backends come to in
whatever order their tasks take turns.
-/

set_option autoImplicit false

namespace WeatherRelay

namespace Chain

variable {σ : Type} {trace : List Event} {chain : Chain σ} {backend : Nat} {consumer : Consumer σ}
  {initial : σ} {worker : Worker σ} {route : Route}

/-- Nothing is left to do for a backend: all is handed out and handled, or its handler crashed. -/
def Rests (chain : Chain σ) (worker : Worker σ) (route : Route) : Prop :=
  (chain.distributing = false ∧ chain.stopping = false ∧ worker.duty = .waiting ∧
    route.queue.items = []) ∨ ∃ reading, worker.duty = .crashed reading

/-- A backend with nothing left to do has made of the datagrams what it makes of their readings in a
row. -/
theorem Serves.drain_supplied (serves : Serves trace chain backend consumer initial worker route)
    (rests : chain.Rests worker route) :
    (consumer.drain (supplied trace) initial).2 = (worker.events, worker.state) := by
  rcases rests with ⟨halted, untouched, waiting, empty⟩ | ⟨reading, crashed⟩
  · have drained := serves.drained
    rw [waiting, serves.finished halted untouched waiting empty] at drained
    exact congrArg Prod.snd drained
  · have received := serves.attends.received_eq
    have handles := serves.attends.handles
    rw [crashed] at received handles
    obtain ⟨before, handles, failed⟩ := handles
    obtain ⟨rest, whole⟩ := serves.inOrder
    rw [received, Duty.unhandled, List.append_assoc] at whole
    rw [← whole]
    exact congrArg Prod.snd (handles.crashed failed rest)

end Chain

namespace Relay

open Consumer Pipeline

variable {configuration : Configuration} {healthFile : HealthFile} {relay : Relay}

theorem backends_eq (logging reporting : Bool) (clock : Instant) :
    backends logging reporting = (consumers logging reporting clock).map Consumer.backend := by
  cases logging <;> cases reporting <;> rfl

theorem eq_of_mem_optional {flag : Bool} {only other : Consumer Kept}
    (among : other ∈ if flag then [only] else []) : other = only := by
  cases flag with
  | false => cases among
  | true => exact List.mem_singleton.mp among

-- The stored rain is in the first place and the newest readings, if they are kept, in the last. Only
-- the log between them may be missing, and it keeps nothing.

/-- Nobody but the memory backend has to do with the stored rain. -/
theorem owns_store (logging reporting : Bool) (clock : Instant) :
    ∃ others, consumers logging reporting clock = [] ++ storeConsumer clock :: others ∧
      Owns [] (storeConsumer clock) others (fun kept => some kept.store) (Consumer.memory clock) := by
  refine ⟨(if logging then [logConsumer] else []) ++ if reporting then [reportConsumer] else [], rfl,
    worksOn_within fun _ _ _ _ => rfl, fun other among => ?_⟩
  rw [List.nil_append] at among
  rcases List.mem_append.mp among with logs | reports
  · rw [eq_of_mem_optional logs]
    exact leavesAlone_within fun _ _ => rfl
  · rw [eq_of_mem_optional reports]
    exact leavesAlone_within fun _ _ => rfl

/-- Nobody but the reporting backend has to do with the newest readings. -/
theorem owns_readings (logging : Bool) (clock : Instant) :
    consumers logging true clock = consumers logging false clock ++ [reportConsumer] ∧
      Owns (consumers logging false clock) reportConsumer [] Kept.readings?
        ReportBackend.consumer := by
  refine ⟨by simp [consumers], worksOn_within fun _ next kept found => ?_, fun other among => ?_⟩
  · obtain ⟨_, here, -⟩ := Option.map_eq_some_iff.mp found
    simp [Kept.readings?, Kept.withReadings, here]
  · rw [List.append_nil] at among
    rcases List.mem_append.mp among with first | nothing
    · rcases List.mem_cons.mp first with rfl | logs
      · exact leavesAlone_within fun _ _ => rfl
      · rw [eq_of_mem_optional logs]
        exact leavesAlone_within fun _ _ => rfl
    · cases nothing

/-- A relay begins with empty queues for its consumers. -/
theorem pipeline_ofConfiguration (described : ofConfiguration configuration healthFile = .ok relay)
    (clock : Instant) :
    relay.pipeline = .start configuration.queues.backendQueueSize
      ((consumers relay.logging relay.reporter.isSome clock).map Consumer.backend)
      relay.pipeline.state := by
  rw [← backends_eq]
  unfold ofConfiguration at described
  simp only [bind, Except.bind, pure, Except.pure] at described
  split at described
  · cases described
    rfl
  · split at described
    · cases described
    · cases described
      rfl

section Agreement

variable {clock : Instant} {incomingSize queueSize : Nat} {buffer : Text.Utf8.Bytes}
  {trace : List Chain.Event} {chain : Chain Kept}

-- Both have made of the part what its own consumer makes of the readings in a row.
theorem part_agrees (described : ofConfiguration configuration healthFile = .ok relay)
    (run : Chain.Runs (.ofBackends incomingSize queueSize
      ((consumers relay.logging relay.reporter.isSome clock).map fun consumer =>
        (consumer, relay.pipeline.state)) buffer) trace chain)
    {σ : Type} {before after : List (Consumer Kept)} {whole : Consumer Kept}
    {part? : Kept → Option σ} {consumer : Consumer σ} {initial : σ}
    (split : consumers relay.logging relay.reporter.isSome clock = before ++ whole :: after)
    (owns : Owns before whole after part? consumer)
    (found : part? relay.pipeline.state = some initial) {worker : Worker Kept} {route : Route}
    (workerFound : chain.workers[before.length]? = some worker)
    (routeFound : chain.fanOut.routes[before.length]? = some route)
    (rests : chain.Rests worker route) :
    part? worker.state =
      part? (relay.acceptAll clock (Chain.supplied trace)).2.pipeline.state := by
  have start := pipeline_ofConfiguration described clock
  -- The relay is turned into its pipeline here, the chain into readings in a row further down.
  have same : (relay.acceptAll clock (Chain.supplied trace)).2.pipeline =
      (relay.pipeline.run (consumers relay.logging relay.reporter.isSome clock)
        (Chain.supplied trace)).2 := by
    unfold acceptAll
    rw [start]
    rfl
  have keeps := (run_keepsUp (consumers relay.logging relay.reporter.isSome clock)
    configuration.queues.backendQueueSize relay.pipeline.state (Chain.supplied trace)).2
    before whole after part? consumer initial split owns found
  rw [← start, ← same] at keeps
  have registered : ((consumers relay.logging relay.reporter.isSome clock).map fun consumer =>
      (consumer, relay.pipeline.state))[before.length]? = some (whole, relay.pipeline.state) := by
    simp [split]
  obtain ⟨_, _, serves⟩ := run.serves registered
  cases workerFound.symm.trans serves.worker_found
  cases routeFound.symm.trans serves.route_found
  have drained := serves.drain_supplied rests
  have works := (owns.works (Chain.supplied trace) relay.pipeline.state initial found).2
  rw [drained] at works
  exact works.trans keeps.part_eq.symm

/-- The relay hands readings out through its queues, one after the other. What it comes to by this is
what its backends come to on the datagrams with these readings, in whatever order their tasks take
turns: the same rain is stored, and the same readings are the newest ones of their stations. -/
theorem acceptAll_agrees (described : ofConfiguration configuration healthFile = .ok relay)
    (run : Chain.Runs (.ofBackends incomingSize queueSize
      ((consumers relay.logging relay.reporter.isSome clock).map fun consumer =>
        (consumer, relay.pipeline.state)) buffer) trace chain) :
    (∀ worker route, chain.workers[0]? = some worker → chain.fanOut.routes[0]? = some route →
      chain.Rests worker route →
      worker.state.store = (relay.acceptAll clock (Chain.supplied trace)).2.store) ∧
    (relay.reporter.isSome = true → ∀ last worker route, last + 1 = chain.workers.length →
      chain.workers[last]? = some worker → chain.fanOut.routes[last]? = some route →
      chain.Rests worker route →
      worker.state.readings? =
        (relay.acceptAll clock (Chain.supplied trace)).2.pipeline.state.readings?) := by
  constructor
  · intro worker route workerFound routeFound rests
    obtain ⟨others, split, owns⟩ := owns_store relay.logging relay.reporter.isSome clock
    exact Option.some.inj (part_agrees described run split owns rfl workerFound routeFound rests)
  · intro reports last worker route length workerFound routeFound rests
    obtain ⟨split, owns⟩ := owns_readings relay.logging clock
    have number := run.sound.length_eq
    rw [reports, split] at number
    have here : last = (consumers relay.logging false clock).length := by
      simp only [List.length_map, List.length_append, List.length_singleton] at number
      omega
    subst here
    obtain ⟨reporter, found⟩ := Option.isSome_iff_exists.mp reports
    have kept : Kept.readings? relay.pipeline.state = some reporter.readings :=
      congrArg (Option.map ReportBackend.readings) found
    rw [← reports] at split
    exact part_agrees described run split owns kept workerFound routeFound rests

end Agreement

end Relay

end WeatherRelay
