import WeatherRelay.Proofs.Session.ByteStream
import WeatherRelay.Proofs.Session.Typestate

/-! What a handshake meets, and what it makes of it.

Up to the reply nothing depends on how the reply will be looked at. So whoever makes a handshake meets
the same, goes through the same phases and leaves the same on the wire; only the verdict on a reply
takes the mode of verification into account.
-/

set_option autoImplicit false

namespace WeatherRelay

namespace Session

/-- Calls one after the other, until one of them fails. -/
def callAll : List Call → Conversation Unit
  | [] => pure ()
  | call :: rest => do
    call.conversation
    callAll rest

/-- Calls until one of them fails, with the phases between the calls, the outcome and the session
in the end. -/
inductive Went : Session → List Call → List Phase → Except ReportError Unit → Session → Prop where
  | done {session : Session} : Went session [] [session.phase] (.ok ()) session
  | onward {session middle after : Session} {call : Call} {rest : List Call} {phases : List Phase}
      {outcome : Except ReportError Unit} :
      perform call.conversation session = (.ok (), middle) →
      Went middle rest phases outcome after →
      Went session (call :: rest) (session.phase :: phases) outcome after
  | stopped {session after : Session} {call : Call} {rest : List Call} {error : ReportError} :
      perform call.conversation session = (.error error, after) →
      Went session (call :: rest) [session.phase, after.phase] (.error error) after

section Went

variable {session middle after : Session} {calls more : List Call} {phases : List Phase}
  {outcome : Except ReportError Unit}

theorem Went.perform_eq (went : Went session calls phases outcome after) :
    perform (callAll calls) session = (outcome, after) := by
  induction went with
  | done => rfl
  | onward made _ ih => rw [callAll, perform_bind, made]; exact ih
  | stopped made => rw [callAll, perform_bind, made]

/-- Calls that all succeed lead to where further calls begin. -/
theorem Went.append {before : List Phase} (first : Went session calls before (.ok ()) middle)
    (second : Went middle more phases outcome after) :
    Went session (calls ++ more) (before.dropLast ++ phases) outcome after := by
  generalize succeeded : (Except.ok () : Except ReportError Unit) = end_ at first
  induction first with
  | done => exact second
  | @onward session middle last call rest phases' _ made later ih =>
    have some : phases' ≠ [] := by cases later <;> simp
    rw [List.dropLast_cons_of_ne_nil some]
    exact .onward made (ih second succeeded)
  | stopped => cases succeeded

theorem Went.stays {error : ReportError} (went : Went session calls phases (.error error) after)
    (more : List Call) : Went session (calls ++ more) phases (.error error) after := by
  generalize failed : (Except.error error : Except ReportError Unit) = end_ at went ⊢
  induction went with
  | done => cases failed
  | onward made _ ih => exact .onward made (ih failed)
  | stopped made => exact .stopped made

end Went

/-- The calls of a handshake. -/
def handshakeCalls (server : Server) (login : Login) (mode : Verification) : List Call :=
  [.connect server, .readGreeting, .logIn login, .awaitVerification mode]

theorem handshake_eq (server : Server) (login : Login) (mode : Verification) :
    handshake server login mode = callAll (handshakeCalls server login mode) := by
  simp only [handshake, callAll, handshakeCalls, Call.conversation, bind_pure_unit]

/-- What was met by the time there is a reply to the login, or none will come. -/
inductive Encounter where
  | undialed (fault : IoFault)
  | noGreeting (fault : IoFault)
  | badGreeting (line : String)
  | loginBroken (greeting : String) (sent : Nat) (fault : IoFault)
  | noReply (greeting : String) (fault : IoFault)
  | replied (greeting reply : String)
  deriving DecidableEq, Repr

end Session

/-- The connection that is there after a dial. -/
def Server.opened (server : Server) : Connection :=
  { arrivals := server.arrivals, writes := server.writes }

/-- What a login meets on a connection from which a greeting was read. -/
def Connection.loginEncounter (connection : Connection) (greeting : String) : Session.Encounter :=
  match connection.writes with
  | .broken sent fault :: _ => .loginBroken greeting sent fault
  | _ =>
    match connection.nextLine? with
    | .error fault => .noReply greeting fault
    | .ok (reply, _) => .replied greeting reply

/-- What a handshake meets with a server: the outcomes of dial, reads and write as far as they are
asked for, and the lines that are read. -/
def Server.encounter (server : Server) : Session.Encounter :=
  match server.dialFault with
  | some fault => .undialed fault
  | none =>
    match server.opened.nextLine? with
    | .error fault => .noGreeting fault
    | .ok (greeting, behind) =>
      if greeting.toList.head? = some '#' then behind.loginEncounter greeting
      else .badGreeting greeting

-- Reading has nothing to do with what is still to be written.
theorem Connection.nextLine?_withWrites (connection : Connection) (writes : List WriteOutcome) :
    { connection with writes }.nextLine? =
      connection.nextLine?.map fun next => (next.1, { next.2 with writes }) := by
  unfold nextLine?
  dsimp only
  cases readRawLine connection.buffered connection.arrivals with
  | error fault => rfl
  | ok raw =>
    obtain ⟨line, rest, arrivals⟩ := raw
    cases line with
    | nil => rfl
    | cons first others =>
      dsimp only
      cases Text.Utf8.decode (first :: others) with
      | error place => rfl
      | ok text => rfl

namespace Session

namespace Encounter

/-- What is noted on the way. -/
def journal (login : Login) : Encounter → List WireEvent
  | undialed _ | noGreeting _ => [.dialed]
  | badGreeting line => [.dialed, .received line]
  | loginBroken greeting sent _ =>
    [.dialed, .received greeting, .wrote ((Text.Utf8.encode login.text).take sent) false]
  | noReply greeting _ => [.dialed, .received greeting, .wrote (Text.Utf8.encode login.text) true]
  | replied greeting reply =>
    [.dialed, .received greeting, .wrote (Text.Utf8.encode login.text) true, .received reply]

/-- The phases on the way. -/
def phases : Encounter → List Phase
  | undialed _ => [.idle]
  | noGreeting _ | badGreeting _ => [.idle, .awaitGreeting]
  | loginBroken _ _ _ => [.idle, .awaitGreeting, .loggingIn]
  | noReply _ _ | replied _ _ => [.idle, .awaitGreeting, .loggingIn, .awaitVerification]

/-- What is made of a reply. -/
def replyVerdict (mode : Verification) (reply : String) : Except ReportError Unit :=
  if reply.toList.head? = some '#' then
    if mode.accepts reply then .ok () else .error (.protocolViolation (.notVerified reply))
  else .error (.protocolViolation (.badReply reply))

/-- What a handshake comes to. -/
def verdict (mode : Verification) : Encounter → Except ReportError Unit
  | undialed fault => .error (.connection .dialing fault)
  | noGreeting fault => .error (.connection .readingGreeting fault)
  | badGreeting line => .error (.protocolViolation (.badGreeting line))
  | loginBroken _ _ fault => .error (.connection .sendingLogin fault)
  | noReply _ fault => .error (.connection .readingReply fault)
  | replied _ reply => replyVerdict mode reply

/-- A marked line that says `verified`, and not in small letters throughout. -/
def ConfirmsButForCase (reply : String) : Prop :=
  Marked reply ∧ Confirms .caseInsensitive reply ∧ ¬ Confirms .caseSensitive reply

/-- There is a reply, and only its case keeps it from being a confirmation. -/
def VerifiedButForCase (encounter : Encounter) : Prop :=
  ∃ greeting reply, encounter = replied greeting reply ∧ ConfirmsButForCase reply

end Encounter

/-- Who looks at the case of letters accepts nothing that others would not. -/
theorem Confirms.anyCase {reply : String} (confirms : Confirms .caseSensitive reply) :
    Confirms .caseInsensitive reply := by
  obtain ⟨part, inside, rfl⟩ := confirms
  exact ⟨_, inside, by decide⟩

theorem replyVerdict_ne_iff (reply : String) :
    Encounter.replyVerdict .caseSensitive reply ≠ Encounter.replyVerdict .caseInsensitive reply ↔
      Encounter.ConfirmsButForCase reply := by
  unfold Encounter.replyVerdict Encounter.ConfirmsButForCase Marked
  rw [← accepts_iff, ← accepts_iff]
  by_cases marked : reply.toList.head? = some '#'
  · rw [if_pos marked, if_pos marked]
    by_cases sensitive : Verification.caseSensitive.accepts reply = true
    · have insensitive := accepts_iff.mpr (accepts_iff.mp sensitive).anyCase
      simp [sensitive, insensitive]
    · cases Verification.caseInsensitive.accepts reply <;> simp [marked, sensitive]
  · simp [marked]

/-- The two modes of verification part at a reply that is verified but for its case, and nowhere
else. -/
theorem Encounter.verdict_ne_iff (encounter : Encounter) :
    encounter.verdict .caseSensitive ≠ encounter.verdict .caseInsensitive ↔
      encounter.VerifiedButForCase := by
  unfold VerifiedButForCase
  cases encounter with
  | replied greeting reply => simpa [verdict] using replyVerdict_ne_iff reply
  | undialed | noGreeting | badGreeting | loginBroken | noReply => simp [verdict]

theorem Encounter.VerifiedButForCase.verdicts {encounter : Encounter}
    (butForCase : encounter.VerifiedButForCase) :
    encounter.verdict .caseInsensitive = .ok () ∧ ∃ greeting reply,
      encounter = replied greeting reply ∧
        encounter.verdict .caseSensitive = .error (.protocolViolation (.notVerified reply)) := by
  obtain ⟨greeting, reply, rfl, marked, insensitive, sensitive⟩ := butForCase
  rw [← accepts_iff] at insensitive sensitive
  unfold Marked at marked
  exact ⟨by simp [verdict, replyVerdict, marked, insensitive], greeting, reply, rfl,
    by simp [verdict, replyVerdict, marked, sensitive]⟩

section Calls

variable {session : Session} {connection : Connection}
  (connected : session.connection = some connection)
include connected

theorem perform_greetingCall (phase : session.phase = .awaitGreeting) :
    perform Call.readGreeting.conversation session =
      match connection.nextLine? with
      | .error fault => (.error (.connection .readingGreeting fault), session.dropped)
      | .ok (greeting, rest) =>
        if greeting.toList.head? = some '#' then
          (.ok (), { session.noting (.received greeting) with
            phase := .loggingIn, connection := some rest })
        else (.error (.protocolViolation (.badGreeting greeting)),
          (session.noting (.received greeting)).dropped) := by
  rw [Call.conversation, perform_discard, perform_readGreeting connected phase]
  cases connection.nextLine? with
  | error fault => rfl
  | ok next =>
    dsimp only
    split <;> rfl

theorem perform_verificationCall (phase : session.phase = .awaitVerification)
    (mode : Verification) :
    perform (Call.awaitVerification mode).conversation session =
      match connection.nextLine? with
      | .error fault => (.error (.connection .readingReply fault), session.dropped)
      | .ok (reply, rest) =>
        match Encounter.replyVerdict mode reply with
        | .ok () => (.ok (), { session.noting (.received reply) with
            phase := .sending, connection := some rest })
        | .error error => (.error error, (session.noting (.received reply)).dropped) := by
  rw [Call.conversation, perform_discard, perform_awaitVerification connected phase]
  cases connection.nextLine? with
  | error fault => rfl
  | ok next =>
    dsimp only [Encounter.replyVerdict]
    split
    · split <;> rfl
    · rfl

end Calls

/-- The phase in which a handshake leaves its session. -/
def phaseAfter : Except ReportError Unit → Phase
  | .ok () => .sending
  | .error _ => .closed

/-- The end of a handshake: what it noted, and a connection just where the session can go on. -/
structure HandshakeEnd (encounter : Encounter) (login : Login) (mode : Verification) (after : Session) :
    Prop where
  journal : after.journal = encounter.journal login
  phase : after.phase = phaseAfter (encounter.verdict mode)
  connected : after.connection.isSome ↔ after.phase = .sending

theorem went_logIn (greeting : String) (behind : Connection) (login : Login) (mode : Verification) :
    ∃ after phases,
      Went ⟨.loggingIn, behind, [.dialed, .received greeting]⟩
          [.logIn login, .awaitVerification mode] phases
          ((behind.loginEncounter greeting).verdict mode) after ∧
        (behind.loginEncounter greeting).phases ++ [after.phase] = .idle :: .awaitGreeting :: phases ∧
        HandshakeEnd (behind.loginEncounter greeting) login mode after := by
  have loggedIn := @perform_logIn ⟨.loggingIn, behind, [.dialed, .received greeting]⟩ _ rfl rfl login
  unfold Connection.loginEncounter
  split
  · next sent fault _ written =>
    rw [written] at loggedIn
    exact ⟨_, _, .stopped loggedIn, rfl, rfl, rfl, by simp [dropped]⟩
  · next unbroken =>
    split at loggedIn
    · next written => exact absurd written (unbroken _ _ _)
    have replied := @perform_verificationCall ⟨.awaitVerification,
      some { behind with writes := behind.writes.tail },
      [.dialed, .received greeting, .wrote (Text.Utf8.encode login.text) true]⟩ _ rfl rfl mode
    rw [Connection.nextLine?_withWrites] at replied
    cases answered : behind.nextLine? with
    | error fault =>
      rw [answered] at replied
      exact ⟨_, _, .onward loggedIn (.stopped replied), rfl, rfl, rfl, by simp [dropped]⟩
    | ok next =>
      rw [answered] at replied
      dsimp only [Except.map] at replied ⊢
      have met : (Encounter.replied greeting next.1).verdict mode =
        Encounter.replyVerdict mode next.1 := rfl
      cases verdict : Encounter.replyVerdict mode next.1 with
      | error error =>
        rw [verdict] at replied met
        rw [met]
        exact ⟨_, _, .onward loggedIn (.stopped replied), rfl, rfl,
          (congrArg phaseAfter met).symm, by simp [dropped]⟩
      | ok =>
        rw [verdict] at replied met
        rw [met]
        exact ⟨_, _, .onward loggedIn (.onward replied .done), rfl, rfl,
          (congrArg phaseAfter met).symm, by simp⟩

/-- Every handshake is decided by what it meets. -/
theorem went_handshake (server : Server) (login : Login) (mode : Verification) :
    ∃ after, Went {} (handshakeCalls server login mode)
        (server.encounter.phases ++ [after.phase]) (server.encounter.verdict mode) after ∧
      HandshakeEnd server.encounter login mode after := by
  have dialing := @perform_connect {} rfl server
  unfold Server.encounter
  cases dialed : server.dialFault with
  | some fault =>
    rw [dialed] at dialing
    exact ⟨_, .stopped dialing, rfl, rfl, by simp [dropped]⟩
  | none =>
    rw [dialed] at dialing
    have greeted := @perform_greetingCall ⟨.awaitGreeting, server.opened, [.dialed]⟩ _ rfl rfl
    cases read : server.opened.nextLine? with
    | error fault =>
      rw [read] at greeted
      exact ⟨_, .onward dialing (.stopped greeted), rfl, rfl, by simp [dropped]⟩
    | ok next =>
      obtain ⟨greeting, behind⟩ := next
      rw [read] at greeted
      dsimp only at greeted ⊢
      by_cases marked : greeting.toList.head? = some '#'
      · rw [if_pos marked] at greeted ⊢
        obtain ⟨after, phases, went, same, ended⟩ := went_logIn greeting behind login mode
        refine ⟨after, ?_, ended⟩
        rw [same]
        exact .onward dialing (.onward greeted went)
      · rw [if_neg marked] at greeted ⊢
        exact ⟨_, .onward dialing (.stopped greeted), rfl, rfl, by simp [dropped]⟩

end Session

end WeatherRelay
