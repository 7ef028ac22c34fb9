import WeatherRelay.Proofs.Session.Calls

/-! The phases of a session under calls in any order.

Every call but closing belongs to one phase. Made in its phase it leads to the next one or ends the
session; made in any other it is refused, and nothing happens. So the phase only moves forward, and
no call does its work twice.
-/

set_option autoImplicit false

namespace WeatherRelay

namespace Phase

/-- The phase that the call of a phase leads to. -/
def next? : Phase → Option Phase
  | idle => some awaitGreeting
  | awaitGreeting => some loggingIn
  | loggingIn => some awaitVerification
  | awaitVerification => some sending
  | sending => some closed
  | connecting | closed => none

/-- The phases in which a session has a connection. -/
def isConnected : Phase → Bool
  | awaitGreeting | loggingIn | awaitVerification | sending => true
  | idle | connecting | closed => false

/-- How far a phase is from the beginning. -/
def rank : Phase → Nat
  | idle => 0
  | connecting => 1
  | awaitGreeting => 2
  | loggingIn => 3
  | awaitVerification => 4
  | sending => 5
  | closed => 6

theorem rank_le_closed (phase : Phase) : phase.rank ≤ closed.rank := by
  cases phase <;> decide

theorem eq_closed_of_rank_le {phase : Phase} (last : closed.rank ≤ phase.rank) : phase = closed := by
  revert last
  cases phase <;> decide

theorem rank_lt_of_next? {phase next : Phase} (follows : phase.next? = some next) :
    phase.rank < next.rank := by
  cases phase <;> cases follows <;> decide

end Phase

namespace Session

/-- A call on a session, with all that it is given. -/
inductive Call where
  | connect (server : Server)
  | readGreeting
  | logIn (login : Login)
  | awaitVerification (mode : Verification)
  | sendLine (line : String)
  | close
  deriving DecidableEq

namespace Call

/-- The phase that a call belongs to. Closing belongs to none. -/
def phase? : Call → Option Phase
  | connect _ => some .idle
  | readGreeting => some .awaitGreeting
  | logIn _ => some .loggingIn
  | awaitVerification _ => some .awaitVerification
  | sendLine _ => some .sending
  | close => none

/-- The call itself, but for the line that it may read. -/
def conversation : Call → Conversation Unit
  | connect server => Session.connect server
  | readGreeting => discard Session.readGreeting
  | logIn login => Session.logIn login
  | awaitVerification mode => discard (Session.awaitVerification mode)
  | sendLine line => Session.sendLine line
  | close => Session.close

def outcome (call : Call) (session : Session) : Except ReportError Unit :=
  (perform call.conversation session).1

/-- The session as a call leaves it. -/
def after (call : Call) (session : Session) : Session := (perform call.conversation session).2

theorem rank_lt_closed {phase : Phase} (call : Call) (belongs : call.phase? = some phase) :
    phase.rank < Phase.closed.rank := by
  cases call <;> cases belongs <;> decide

end Call

/-- A session after calls one after the other, whatever comes of each of them. -/
def afterAll (session : Session) (calls : List Call) : Session :=
  calls.foldl (fun session call => call.after session) session

/-- Whether a call is the call of a phase and is made in it, as a number. -/
def Call.attempt (phase : Phase) (call : Call) (session : Session) : Nat :=
  if call.phase? = some phase ∧ session.phase = phase then 1 else 0

/-- How often the call of a phase is made in that phase. -/
def attempts (phase : Phase) : Session → List Call → Nat
  | _, [] => 0
  | session, call :: rest => call.attempt phase session + attempts phase (call.after session) rest

/-- Bytes were to go out. -/
def isWrite : WireEvent → Bool
  | .wrote _ _ => true
  | _ => false

/-- The number of writes that were begun. -/
def writes (session : Session) : Nat := session.journal.countP isWrite

/-- Connection and phase of a session between two calls. -/
structure InStep (session : Session) : Prop where
  connected : session.connection.isSome ↔ session.phase.isConnected
  settled : session.phase ≠ .connecting

/-- What a call in its phase comes to. It dials or writes if that is what the call is for, and it
does so once. -/
structure Settles (phase : Phase) (before : Session) (outcome : Except ReportError Unit)
    (after : Session) : Prop where
  moved : match outcome with
    | .ok () => phase.next? = some after.phase
    | .error error => after.phase = .closed ∧ after.connection = none ∧
        ∀ activity, error ≠ .protocolViolation (.notConnected activity)
  inStep : InStep after
  dials : after.dials = before.dials + if phase = .idle then 1 else 0
  writes : after.writes = before.writes + if phase = .loggingIn ∨ phase = .sending then 1 else 0

theorem inStep_fresh : InStep {} := ⟨by decide, by decide⟩

theorem inStep_dropped (session : Session) : InStep session.dropped :=
  ⟨iff_of_false (by simp [dropped]) (by simp [dropped, Phase.isConnected]), by simp [dropped]⟩

section Calls

variable {session : Session} {phase : Phase}

theorem settles_ok {next : Phase} {after : Session} (events : List WireEvent)
    (follows : phase.next? = some next) (phase_eq : after.phase = next)
    (connected : after.connection.isSome ↔ next.isConnected)
    (journal : after.journal = session.journal ++ events)
    (dialed : events.count .dialed = if phase = .idle then 1 else 0)
    (wrote : events.countP isWrite = if phase = .loggingIn ∨ phase = .sending then 1 else 0) :
    Settles phase session (.ok ()) after where
  moved := phase_eq ▸ follows
  inStep := by
    refine ⟨phase_eq ▸ connected, ?_⟩
    rw [phase_eq]
    rintro rfl
    cases phase <;> cases follows
  dials := by rw [dials, journal, List.count_append, dialed]; rfl
  writes := by rw [writes, journal, List.countP_append, wrote]; rfl

theorem settles_error {error : ReportError} {after : Session} (events : List WireEvent)
    (closed : after = { journal := session.journal ++ events, phase := .closed })
    (held : ∀ activity, error ≠ .protocolViolation (.notConnected activity))
    (dialed : events.count .dialed = if phase = .idle then 1 else 0)
    (wrote : events.countP isWrite = if phase = .loggingIn ∨ phase = .sending then 1 else 0) :
    Settles phase session (.error error) after := by
  subst closed
  refine ⟨⟨rfl, rfl, held⟩, inStep_dropped { journal := session.journal ++ events }, ?_, ?_⟩
  · rw [dials, List.count_append, dialed]; rfl
  · rw [writes, List.countP_append, wrote]; rfl

theorem InStep.exists_connection (inStep : InStep session) (connected : session.phase.isConnected) :
    ∃ connection, session.connection = some connection :=
  Option.isSome_iff_exists.mp (inStep.connected.mpr connected)

/-- Every call in its phase, whatever the network does. -/
theorem Call.settles (call : Call) (inStep : InStep session) (belongs : call.phase? = some phase)
    (here : session.phase = phase) :
    Settles phase session (call.outcome session) (call.after session) := by
  unfold Call.outcome Call.after
  cases call with
  | connect server =>
    cases belongs
    simp only [Call.conversation, perform_connect here]
    cases server.dialFault with
    | some fault => exact settles_error [.dialed] rfl (by simp) rfl rfl
    | none => exact settles_ok [.dialed] rfl rfl (by simp [Phase.isConnected]) rfl rfl rfl
  | readGreeting =>
    cases belongs
    obtain ⟨connection, connected⟩ := inStep.exists_connection (by rw [here]; rfl)
    rw [Call.conversation, perform_discard, perform_readGreeting connected here]
    cases connection.nextLine? with
    | error fault => exact settles_error [] (by simp [dropped]) (by simp) rfl rfl
    | ok next =>
      dsimp only
      by_cases marked : next.1.toList.head? = some '#'
      · rw [if_pos marked]
        exact settles_ok [.received next.1] rfl rfl (by simp [Phase.isConnected]) rfl rfl rfl
      · rw [if_neg marked]
        exact settles_error [.received next.1] rfl (by simp) rfl rfl
  | logIn login =>
    cases belongs
    obtain ⟨connection, connected⟩ := inStep.exists_connection (by rw [here]; rfl)
    rw [Call.conversation, perform_logIn connected here]
    split
    · exact settles_error [.wrote _ _] rfl (by simp) rfl rfl
    · exact settles_ok [.wrote _ _] rfl rfl (by simp [Phase.isConnected]) rfl rfl rfl
  | awaitVerification mode =>
    cases belongs
    obtain ⟨connection, connected⟩ := inStep.exists_connection (by rw [here]; rfl)
    rw [Call.conversation, perform_discard, perform_awaitVerification connected here]
    cases connection.nextLine? with
    | error fault => exact settles_error [] (by simp [dropped]) (by simp) rfl rfl
    | ok next =>
      dsimp only
      by_cases marked : next.1.toList.head? = some '#'
      · rw [if_pos marked]
        cases mode.accepts next.1 with
        | true => exact settles_ok [.received next.1] rfl rfl (by simp [Phase.isConnected]) rfl rfl rfl
        | false => exact settles_error [.received next.1] rfl (by simp) rfl rfl
      · rw [if_neg marked]
        exact settles_error [.received next.1] rfl (by simp) rfl rfl
  | sendLine line =>
    cases belongs
    obtain ⟨connection, connected⟩ := inStep.exists_connection (by rw [here]; rfl)
    rw [Call.conversation, perform_sendLine connected here]
    split
    · exact settles_error [.wrote _ _] rfl (by simp) rfl rfl
    · exact settles_ok [.wrote _ _] rfl rfl (by simp [dropped, Phase.isConnected]) rfl rfl rfl
  | close => cases belongs

theorem Call.perform_refused (call : Call) {expected : Phase}
    (belongs : call.phase? = some expected) (elsewhere : session.phase ≠ expected) :
    perform call.conversation session =
      (.error (.protocolViolation (.wrongPhase session.phase expected)), session) := by
  cases call with
  | connect server =>
    cases belongs
    exact perform_outOfPhase elsewhere _
  | readGreeting =>
    cases belongs
    rw [conversation, perform_discard]
    unfold Session.readGreeting
    rw [perform_outOfPhase elsewhere]
    rfl
  | logIn login =>
    cases belongs
    exact perform_outOfPhase elsewhere _
  | awaitVerification mode =>
    cases belongs
    rw [conversation, perform_discard]
    unfold Session.awaitVerification
    rw [perform_outOfPhase elsewhere]
    rfl
  | sendLine line =>
    cases belongs
    exact perform_outOfPhase elsewhere _
  | close => cases belongs

/-- What may come of a call, and the session afterwards. -/
inductive Response (call : Call) (session : Session) : Except ReportError Unit → Session → Prop where
  | closed : call.phase? = none → Response call session (.ok ()) session.dropped
  | refused {expected : Phase} : call.phase? = some expected → session.phase ≠ expected →
      Response call session (.error (.protocolViolation (.wrongPhase session.phase expected))) session
  | settled {outcome : Except ReportError Unit} {after : Session} :
      call.phase? = some session.phase → Settles session.phase session outcome after →
      Response call session outcome after

theorem Call.response (call : Call) (inStep : InStep session) :
    Response call session (call.outcome session) (call.after session) := by
  cases belongs : call.phase? with
  | none =>
    cases call with
    | close => exact .closed rfl
    | connect | readGreeting | logIn | awaitVerification | sendLine => cases belongs
  | some expected =>
    by_cases here : session.phase = expected
    · exact .settled (belongs.trans (congrArg some here.symm))
        (call.settles inStep (belongs.trans (congrArg some here.symm)) rfl)
    · unfold outcome after
      rw [call.perform_refused belongs here]
      exact .refused belongs here

end Calls

section Response

variable {call : Call} {session after : Session} {outcome : Except ReportError Unit}

theorem Response.inStep (response : Response call session outcome after) (inStep : InStep session) :
    InStep after := by
  cases response with
  | closed => exact inStep_dropped session
  | refused => exact inStep
  | settled _ settles => exact settles.inStep

theorem Response.moves (response : Response call session outcome after) :
    after.phase = session.phase ∨ session.phase.next? = some after.phase ∨ after.phase = .closed := by
  cases response with
  | closed => exact .inr (.inr rfl)
  | refused => exact .inl rfl
  | settled _ settles =>
    have moved := settles.moved
    cases outcome with
    | ok => exact .inr (.inl moved)
    | error => exact .inr (.inr moved.1)

theorem Response.not_notConnected (response : Response call session outcome after)
    (activity : Activity) : outcome ≠ .error (.protocolViolation (.notConnected activity)) := by
  rintro rfl
  cases response with
  | settled _ settles => exact settles.moved.2.2 activity rfl

theorem Response.rank_le (response : Response call session outcome after) :
    session.phase.rank ≤ after.phase.rank := by
  rcases response.moves with same | follows | closed
  · exact same ▸ Nat.le_refl _
  · exact Nat.le_of_lt (Phase.rank_lt_of_next? follows)
  · exact closed ▸ Phase.rank_le_closed _

-- No call belongs to the last phase, so every call in its phase has a phase ahead of it.
theorem Response.rank_lt (response : Response call session outcome after)
    (made : call.phase? = some session.phase) : session.phase.rank < after.phase.rank := by
  cases response with
  | closed belongs => simp [belongs] at made
  | refused belongs elsewhere => exact absurd (Option.some.inj (made.symm.trans belongs)) elsewhere
  | settled _ settles =>
    have moved := settles.moved
    cases outcome with
    | ok => exact Phase.rank_lt_of_next? moved
    | error =>
      rw [moved.1]
      exact call.rank_lt_closed made

theorem Response.dials (response : Response call session outcome after) :
    after.dials = session.dials + call.attempt .idle session := by
  unfold Call.attempt
  cases response with
  | closed belongs => rw [belongs, if_neg (by simp)]; rfl
  | @refused expected belongs elsewhere =>
    rw [if_neg fun made => elsewhere (made.2.trans (Option.some.inj (made.1.symm.trans belongs)))]
    rfl
  | settled belongs settles => simp [settles.dials, belongs]

theorem Response.writes (response : Response call session outcome after) :
    after.writes =
      session.writes + (call.attempt .loggingIn session + call.attempt .sending session) := by
  unfold Call.attempt
  cases response with
  | closed belongs => simp [belongs, Session.writes, dropped]
  | refused belongs elsewhere =>
    rw [if_neg fun made => elsewhere (made.2.trans (Option.some.inj (made.1.symm.trans belongs))),
      if_neg fun made => elsewhere (made.2.trans (Option.some.inj (made.1.symm.trans belongs)))]
    rfl
  | settled belongs settles =>
    rw [settles.writes, belongs]
    cases session.phase <;> rfl

end Response

section Runs

variable {session : Session}

theorem inStep_afterAll (inStep : InStep session) (calls : List Call) :
    InStep (afterAll session calls) := by
  induction calls generalizing session with
  | nil => exact inStep
  | cons call rest ih => exact ih ((call.response inStep).inStep inStep)

theorem rank_le_afterAll (inStep : InStep session) (calls : List Call) :
    session.phase.rank ≤ (afterAll session calls).phase.rank := by
  induction calls generalizing session with
  | nil => exact Nat.le_refl _
  | cons call rest ih =>
    have response := call.response inStep
    exact Nat.le_trans response.rank_le (ih (response.inStep inStep))

-- Once the call of a phase was made the session is past that phase.
theorem attempts_le (phase : Phase) (inStep : InStep session) (calls : List Call) :
    attempts phase session calls ≤ if session.phase.rank ≤ phase.rank then 1 else 0 := by
  induction calls generalizing session with
  | nil => exact Nat.zero_le _
  | cons call rest ih =>
    have response := call.response inStep
    have later := ih (response.inStep inStep)
    unfold attempts Call.attempt
    by_cases made : call.phase? = some phase ∧ session.phase = phase
    · have ahead := response.rank_lt (made.2 ▸ made.1)
      rw [made.2] at ahead
      rw [if_neg (Nat.not_le_of_lt ahead)] at later
      rw [if_pos made, made.2, if_pos (Nat.le_refl _)]
      omega
    · have ahead := response.rank_le
      rw [if_neg made, Nat.zero_add]
      refine Nat.le_trans later ?_
      split <;> split <;> omega

theorem dials_afterAll (inStep : InStep session) (calls : List Call) :
    (afterAll session calls).dials = session.dials + attempts .idle session calls := by
  induction calls generalizing session with
  | nil => rfl
  | cons call rest ih =>
    have response := call.response inStep
    have later := ih (response.inStep inStep)
    rw [response.dials] at later
    rw [attempts, ← Nat.add_assoc]
    exact later

theorem writes_afterAll (inStep : InStep session) (calls : List Call) :
    (afterAll session calls).writes =
      session.writes + (attempts .loggingIn session calls + attempts .sending session calls) := by
  induction calls generalizing session with
  | nil => rfl
  | cons call rest ih =>
    have response := call.response inStep
    have later : (afterAll session (call :: rest)).writes = (call.after session).writes +
        (attempts .loggingIn (call.after session) rest +
          attempts .sending (call.after session) rest) := ih (response.inStep inStep)
    rw [later, response.writes, attempts, attempts]
    omega

end Runs

/-- Calls on a fresh session, in any order and whatever the network does. After each of them the
session holds a connection just in the phases that need one, the next call is refused, carried out
or fatal, a closed session stays so, and nothing is dialed, logged in or reported twice. -/
theorem calls_keep_typestate (calls : List Call) :
    InStep (afterAll {} calls) ∧
      (∀ call : Call,
        Response call (afterAll {} calls) (call.outcome (afterAll {} calls))
            (afterAll {} (calls ++ [call])) ∧
          ((afterAll {} (calls ++ [call])).phase = (afterAll {} calls).phase ∨
            (afterAll {} calls).phase.next? = some (afterAll {} (calls ++ [call])).phase ∨
            (afterAll {} (calls ++ [call])).phase = .closed) ∧
          ∀ activity, call.outcome (afterAll {} calls) ≠
            .error (.protocolViolation (.notConnected activity))) ∧
      (∀ later, (afterAll {} calls).phase = .closed →
        (afterAll {} (calls ++ later)).phase = .closed) ∧
      (∀ phase, attempts phase {} calls ≤ 1) ∧
      (afterAll {} calls).dials = attempts .idle {} calls ∧
      (afterAll {} calls).writes = attempts .loggingIn {} calls + attempts .sending {} calls := by
  have inStep := inStep_afterAll inStep_fresh calls
  have continued : ∀ later, afterAll {} (calls ++ later) = afterAll (afterAll {} calls) later :=
    fun later => List.foldl_append
  refine ⟨inStep, fun call => ?_, fun later last => ?_, fun phase => ?_, ?_, ?_⟩
  · rw [continued]
    have response := call.response inStep
    exact ⟨response, response.moves, response.not_notConnected⟩
  · rw [continued]
    exact Phase.eq_closed_of_rank_le (last ▸ rank_le_afterAll inStep later)
  · refine Nat.le_trans (attempts_le phase inStep_fresh calls) ?_
    split <;> omega
  · exact (dials_afterAll inStep_fresh calls).trans (Nat.zero_add _)
  · exact (writes_afterAll inStep_fresh calls).trans (Nat.zero_add _)

end Session

end WeatherRelay
