import WeatherRelay.Proofs.Session.Transcript

/-! Every call in its phase takes the conversation one phase on or cuts it short.

The two ends of a call are the two cases of `Advances`; calls in a row are put together by
`Advances.bind`, which hands a conversation that was cut short past all that follows.
-/

set_option autoImplicit false

namespace WeatherRelay.Session

open Text.Utf8 (Bytes)

section Advances

variable (login report : Bytes) (accepted : String → Prop)

/-- A session on an orderly course, connected until it is closed. -/
structure Standing (phase : Phase) (session : Session) : Prop where
  phase_eq : session.phase = phase
  connected : session.connection.isSome ↔ phase ≠ .closed
  course : Course login report accepted phase session.journal

/-- A session whose conversation was cut short. -/
structure Broken (session : Session) : Prop where
  phase_eq : session.phase = .closed
  connection : session.connection = none
  cut : CutShort login report accepted session.journal

/-- A call came to the next phase, or the conversation ended with its failure. -/
def Advances {α : Type} (next : Phase) (outcome : Except ReportError α × Session) : Prop :=
  match outcome with
  | (.ok _, after) => Standing login report accepted next after
  | (.error _, after) => Broken login report accepted after

end Advances

variable {login report : Bytes} {accepted : String → Prop} {α β : Type}

theorem Advances.bind {call : Conversation α} {next : α → Conversation β} {session : Session}
    {middle last : Phase} (first : Advances login report accepted middle (perform call session))
    (second : ∀ value after, Standing login report accepted middle after →
      Advances login report accepted last (perform (next value) after)) :
    Advances login report accepted last (perform (call >>= next) session) := by
  rw [perform_bind]
  rcases outcome : perform call session with ⟨_ | value, after⟩
  · rw [outcome] at first
    exact first
  · rw [outcome] at first
    exact second value after first

theorem Advances.discard {call : Conversation α} {session : Session} {next : Phase}
    (advances : Advances login report accepted next (perform call session)) :
    Advances login report accepted next (perform (discard call) session) := by
  rw [discard_eq]
  exact advances.bind fun _ _ standing => standing

theorem Standing.exists_connection {phase : Phase} {session : Session}
    (standing : Standing login report accepted phase session) (running : phase ≠ .closed) :
    ∃ connection, session.connection = some connection :=
  Option.isSome_iff_exists.mp (standing.connected.mpr running)

theorem connect_advances (server : Server) :
    Advances login report accepted .awaitGreeting (perform (connect server) {}) := by
  rw [perform_connect rfl]
  cases server.dialFault with
  | some fault => exact ⟨rfl, rfl, .undialed⟩
  | none => exact ⟨rfl, by simp, .dialed⟩

section Calls

variable {session : Session}

theorem readGreeting_advances (standing : Standing login report accepted .awaitGreeting session) :
    Advances login report accepted .loggingIn (perform readGreeting session) := by
  obtain ⟨connection, connected⟩ := standing.exists_connection (by decide)
  rw [perform_readGreeting connected standing.phase_eq]
  cases connection.nextLine? with
  | error fault => exact ⟨rfl, rfl, .unread standing.course (by decide)⟩
  | ok next =>
    dsimp only
    split
    case isTrue marked => exact ⟨rfl, by simp, .greeted standing.course marked⟩
    case isFalse => exact ⟨rfl, rfl, .refused standing.course (by decide)⟩

theorem awaitVerification_advances {mode : Verification}
    (accepts : ∀ reply, mode.accepts reply = true → accepted reply)
    (standing : Standing login report accepted .awaitVerification session) :
    Advances login report accepted .sending (perform (awaitVerification mode) session) := by
  obtain ⟨connection, connected⟩ := standing.exists_connection (by decide)
  rw [perform_awaitVerification connected standing.phase_eq]
  cases connection.nextLine? with
  | error fault => exact ⟨rfl, rfl, .unread standing.course (by decide)⟩
  | ok next =>
    dsimp only
    split
    case isTrue marked =>
      split
      case isTrue verified =>
        exact ⟨rfl, by simp, .verified standing.course marked (accepts _ verified)⟩
      case isFalse => exact ⟨rfl, rfl, .refused standing.course (by decide)⟩
    case isFalse => exact ⟨rfl, rfl, .refused standing.course (by decide)⟩

end Calls

theorem logIn_advances {login : Login} {session : Session}
    (standing : Standing (Text.Utf8.encode login.text) report accepted .loggingIn session) :
    Advances (Text.Utf8.encode login.text) report accepted .awaitVerification
      (perform (logIn login) session) := by
  obtain ⟨connection, connected⟩ := standing.exists_connection (by decide)
  rw [perform_logIn connected standing.phase_eq]
  split
  · exact ⟨rfl, rfl, .loginBroken standing.course (List.take_prefix _ _)⟩
  · exact ⟨rfl, by simp, .loggedIn standing.course⟩

theorem sendLine_advances (line : String) {session : Session}
    (standing : Standing login (Text.Utf8.encode (line ++ "\r\n")) accepted .sending session) :
    Advances login (Text.Utf8.encode (line ++ "\r\n")) accepted .closed
      (perform (sendLine line) session) := by
  obtain ⟨connection, connected⟩ := standing.exists_connection (by decide)
  rw [perform_sendLine connected standing.phase_eq]
  split
  · exact ⟨rfl, rfl, .reportBroken standing.course (List.take_prefix _ _)⟩
  · exact ⟨rfl, by simp [dropped], .reported standing.course⟩

/-- From the dial to the verification. -/
theorem handshake_advances (server : Server) (login : Login) {mode : Verification}
    (accepts : ∀ reply, mode.accepts reply = true → accepted reply) :
    Advances (Text.Utf8.encode login.text) report accepted .sending
      (perform (handshake server login mode) {}) := by
  refine (connect_advances server).bind fun _ _ dialed => ?_
  refine (readGreeting_advances dialed).discard.bind fun _ _ greeted => ?_
  refine (logIn_advances greeted).bind fun _ _ loggedIn => ?_
  exact (awaitVerification_advances accepts loggedIn).discard

end WeatherRelay.Session
