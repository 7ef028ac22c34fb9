import WeatherRelay.Session

/-! What the calls on a session do to it, one equation for each call in its phase.

A call that fails drops the connection and leaves the journal as it then is. Reading notes a line
before it is looked at, and writing notes what went out, also where that is not all.
-/

set_option autoImplicit false

namespace WeatherRelay

theorem occursIn_iff {wanted text : List Char} : occursIn wanted text = true ↔ wanted <:+: text := by
  induction text with
  | nil => simp [occursIn]
  | cons first rest ih => simp [occursIn, ih, List.infix_cons_iff]

/-- The next line of a connection, and the connection behind it. -/
def Connection.nextLine? (connection : Connection) : Except IoFault (String × Connection) :=
  match readRawLine connection.buffered connection.arrivals with
  | .error fault => .error fault
  | .ok ⟨[], _, _⟩ => .error .unexpectedEnd
  | .ok ⟨line, rest, arrivals⟩ =>
    match Text.Utf8.decode line with
    | .error place => .error (.notUtf8 place)
    | .ok text => .ok (text, { connection with buffered := rest, arrivals })

namespace Session

/-- A session after a failure. -/
def dropped (session : Session) : Session := { session with phase := .closed, connection := none }

/-- A session with one more event in its journal. -/
def noting (session : Session) (event : WireEvent) : Session :=
  { session with journal := session.journal ++ [event] }

section Calls

variable {α β : Type}

theorem perform_bind (call : Conversation α) (next : α → Conversation β) (session : Session) :
    perform (call >>= next) session =
      match perform call session with
      | (.ok value, after) => perform (next value) after
      | (.error error, after) => (.error error, after) := by
  change (ExceptT.bindCont next (perform call session).1) (perform call session).2 = _
  rcases perform call session with ⟨_ | _, _⟩ <;> rfl

theorem discard_eq (call : Conversation α) : discard call = call >>= fun _ => pure () := by
  rw [bind_pure_comp]
  exact congrFun (congrFun LawfulFunctor.map_const ()) call

theorem perform_discard (call : Conversation α) (session : Session) :
    perform (discard call) session =
      ((perform call session).1.map fun _ => (), (perform call session).2) := by
  rw [discard_eq, perform_bind]
  rcases perform call session with ⟨_ | _, _⟩ <;> rfl

theorem perform_requirePhase (session : Session) (expected : Phase) :
    perform (requirePhase expected) session =
      if session.phase = expected then (.ok (), session)
      else (.error (.protocolViolation (.wrongPhase session.phase expected)), session) := by
  change perform (if session.phase = expected then _ else _) session = _
  split <;> rfl

theorem perform_inPhase {expected : Phase} {session : Session} (phase : session.phase = expected)
    (call : Conversation α) :
    perform (requirePhase expected >>= fun _ => call) session = perform call session := by
  rw [perform_bind, perform_requirePhase, if_pos phase]

theorem perform_outOfPhase {expected : Phase} {session : Session} (phase : session.phase ≠ expected)
    (call : Conversation α) :
    perform (requirePhase expected >>= fun _ => call) session =
      (.error (.protocolViolation (.wrongPhase session.phase expected)), session) := by
  rw [perform_bind, perform_requirePhase, if_neg phase]

theorem perform_connected {session : Session} {connection : Connection}
    (connected : session.connection = some connection) (activity : Activity)
    (call : Connection → Conversation α) :
    perform (requireConnection activity >>= call) session = perform (call connection) session := by
  have held : perform (requireConnection activity) session = (.ok connection, session) := by
    obtain ⟨phase, _, journal⟩ := session
    cases connected
    rfl
  rw [perform_bind, held]

end Calls

section Network

variable {session : Session} {connection : Connection}
  (connected : session.connection = some connection)
include connected

theorem perform_readLine (activity : Activity) :
    perform (readLine activity) session =
      match connection.nextLine? with
      | .error fault => (.error (.connection activity fault), session.dropped)
      | .ok (line, rest) =>
        (.ok line, { session.noting (.received line) with connection := some rest }) := by
  unfold readLine
  rw [perform_connected connected]
  unfold Connection.nextLine?
  cases readRawLine connection.buffered connection.arrivals with
  | error fault => rfl
  | ok raw =>
    obtain ⟨line, rest, arrivals⟩ := raw
    cases line with
    | nil => rfl
    | cons first others =>
      dsimp only
      cases Text.Utf8.decode (first :: others) with
      | error place => rfl
      | ok text => rfl

theorem perform_write (activity : Activity) (text : String) :
    perform (write activity text) session =
      match connection.writes with
      | .broken sent fault :: _ =>
        (.error (.connection activity fault),
          (session.noting (.wrote ((Text.Utf8.encode text).take sent) false)).dropped)
      | _ =>
        (.ok (), { session.noting (.wrote (Text.Utf8.encode text) true) with
          connection := some { connection with writes := connection.writes.tail } }) := by
  unfold write
  rw [perform_connected connected]
  cases connection.writes with
  | nil => rfl
  | cons outcome rest =>
    cases outcome with
    | complete => rfl
    | broken sent fault => rfl

-- A greeting is noted before it is looked at, so a bad one is in the journal as well.
theorem perform_readGreeting (phase : session.phase = .awaitGreeting) :
    perform readGreeting session =
      match connection.nextLine? with
      | .error fault => (.error (.connection .readingGreeting fault), session.dropped)
      | .ok (greeting, rest) =>
        if greeting.toList.head? = some '#' then
          (.ok greeting, { session.noting (.received greeting) with
            phase := .loggingIn, connection := some rest })
        else (.error (.protocolViolation (.badGreeting greeting)),
          (session.noting (.received greeting)).dropped) := by
  unfold readGreeting
  rw [perform_inPhase phase, perform_bind, perform_readLine connected]
  cases connection.nextLine? with
  | error fault => rfl
  | ok next =>
    obtain ⟨greeting, rest⟩ := next
    by_cases marked : greeting.toList.head? = some '#'
    · simp only [marked, bne_self_eq_false, Bool.false_eq_true, if_false, if_true]
      rfl
    · simp only [marked, bne_iff_ne, ne_eq, not_false_eq_true, if_true, if_false]
      rfl

theorem perform_logIn (phase : session.phase = .loggingIn) (login : Login) :
    perform (logIn login) session =
      match connection.writes with
      | .broken sent fault :: _ =>
        (.error (.connection .sendingLogin fault),
          (session.noting (.wrote ((Text.Utf8.encode login.text).take sent) false)).dropped)
      | _ =>
        (.ok (), { session.noting (.wrote (Text.Utf8.encode login.text) true) with
          phase := .awaitVerification
          connection := some { connection with writes := connection.writes.tail } }) := by
  unfold logIn
  rw [perform_inPhase phase, perform_bind, perform_write connected]
  cases connection.writes with
  | nil => rfl
  | cons outcome rest =>
    cases outcome with
    | complete => rfl
    | broken sent fault => rfl

theorem perform_awaitVerification (phase : session.phase = .awaitVerification)
    (mode : Verification) :
    perform (awaitVerification mode) session =
      match connection.nextLine? with
      | .error fault => (.error (.connection .readingReply fault), session.dropped)
      | .ok (reply, rest) =>
        if reply.toList.head? = some '#' then
          if mode.accepts reply then
            (.ok reply, { session.noting (.received reply) with
              phase := .sending, connection := some rest })
          else (.error (.protocolViolation (.notVerified reply)),
            (session.noting (.received reply)).dropped)
        else (.error (.protocolViolation (.badReply reply)),
          (session.noting (.received reply)).dropped) := by
  unfold awaitVerification
  rw [perform_inPhase phase, perform_bind, perform_readLine connected]
  cases connection.nextLine? with
  | error fault => rfl
  | ok next =>
    obtain ⟨reply, rest⟩ := next
    by_cases marked : reply.toList.head? = some '#'
    · simp only [marked, bne_self_eq_false, Bool.false_eq_true, if_false, if_true]
      cases mode.accepts reply <;> rfl
    · simp only [marked, bne_iff_ne, ne_eq, not_false_eq_true, if_true, if_false]
      rfl

theorem perform_sendLine (phase : session.phase = .sending) (line : String) :
    perform (sendLine line) session =
      match connection.writes with
      | .broken sent fault :: _ =>
        (.error (.connection .sendingReport fault),
          (session.noting (.wrote ((Text.Utf8.encode (line ++ "\r\n")).take sent) false)).dropped)
      | _ =>
        (.ok (), (session.noting (.wrote (Text.Utf8.encode (line ++ "\r\n")) true)).dropped) := by
  unfold sendLine
  rw [perform_inPhase phase, perform_bind, perform_write connected]
  cases connection.writes with
  | nil => rfl
  | cons outcome rest =>
    cases outcome with
    | complete => rfl
    | broken sent fault => rfl

end Network

theorem perform_connect {session : Session} (phase : session.phase = .idle) (server : Server) :
    perform (connect server) session =
      match server.dialFault with
      | some fault => (.error (.connection .dialing fault), (session.noting .dialed).dropped)
      | none =>
        (.ok (), { session.noting .dialed with
          phase := .awaitGreeting
          connection := some { arrivals := server.arrivals, writes := server.writes } }) := by
  unfold connect
  rw [perform_inPhase phase]
  cases dial : server.dialFault with
  | none => rfl
  | some fault => rfl

end Session

end WeatherRelay
