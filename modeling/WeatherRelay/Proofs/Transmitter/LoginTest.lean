import WeatherRelay.Proofs.Session.Encounter
import WeatherRelay.Proofs.Transmitter.WireDiscipline

/-! A report and a login test that meet the same.

Both make the same handshake and differ in its last look, and in what they do with a session that may
send. So they part at a reply that is verified but for its case, where the report gives up, and
otherwise only in the line that the report has to send.
-/

set_option autoImplicit false

namespace WeatherRelay

open Session Text.Utf8

namespace Session

theorem callAll_append (calls more : List Call) :
    callAll (calls ++ more) = callAll calls >>= fun _ => callAll more := by
  induction calls with
  | nil => exact (pure_bind _ _).symm
  | cons call rest ih =>
    simp only [List.cons_append, callAll, ih, bind_assoc]

theorem callAll_singleton (call : Call) : callAll [call] = call.conversation := by
  simp only [callAll, bind_pure_unit]

theorem Went.single {session after : Session} {call : Call} {outcome : Except ReportError Unit}
    (made : perform call.conversation session = (outcome, after)) :
    Went session [call] [session.phase, after.phase] outcome after := by
  cases outcome with
  | ok => exact .onward made .done
  | error error => exact .stopped made

/-- The phases from the end of a handshake to the end of its session. -/
def lastPhases : Except ReportError Unit → List Phase
  | .ok () => [.sending, .closed]
  | .error _ => [.closed]

/-- How a conversation ends that makes one more call after a handshake. -/
inductive Concludes (encounter : Encounter) (login : Login) (mode : Verification) (last : Call) :
    Except ReportError Unit → Session → Prop where
  | failed {error : ReportError} {after : Session} : encounter.verdict mode = .error error →
      after.journal = encounter.journal login →
      Concludes encounter login mode last (.error error) after
  | made {session after : Session} {outcome : Except ReportError Unit} :
      encounter.verdict mode = .ok () → session.phase = .sending → session.connection.isSome →
      session.journal = encounter.journal login →
      perform last.conversation session = (outcome, after) →
      Concludes encounter login mode last outcome after

theorem went_conversation (server : Server) (login : Login) (mode : Verification) {last : Call}
    (closes : ∀ session : Session, session.phase = .sending → session.connection.isSome →
      (last.after session).phase = .closed) :
    ∃ outcome after, Went {} (handshakeCalls server login mode ++ [last])
        (server.encounter.phases ++ lastPhases (server.encounter.verdict mode)) outcome after ∧
      Concludes server.encounter login mode last outcome after := by
  obtain ⟨session, went, ended⟩ := went_handshake server login mode
  have phase := ended.phase
  cases verdict : server.encounter.verdict mode with
  | error error =>
    rw [verdict] at went phase
    refine ⟨.error error, session, ?_, .failed verdict ended.journal⟩
    rw [phase] at went
    exact went.stays [last]
  | ok =>
    rw [verdict] at went phase
    have connected := ended.connected.mpr phase
    rcases made : perform last.conversation session with ⟨outcome, after⟩
    have closed : after.phase = .closed := by
      have := closes session phase connected
      rwa [Call.after, made] at this
    refine ⟨outcome, after, ?_, .made verdict phase connected ended.journal made⟩
    have both := went.append (Went.single made)
    rwa [List.dropLast_concat, phase, closed] at both

end Session

/-- The calls of a report. -/
def Transmitter.calls (station : Station) (server : Server) (line : String) : List Call :=
  handshakeCalls server station.login .caseSensitive ++ [.sendLine line]

/-- The calls of a login test. -/
def HealthMonitor.calls (station : Station) (server : Server) : List Call :=
  handshakeCalls server station.login .caseInsensitive ++ [.close]

theorem Transmitter.send_eq (station : Station) (server : Server) (line : String) :
    send station server line = callAll (calls station server line) >>= fun _ => pure .sent := by
  rw [calls, callAll_append, callAll_singleton, ← handshake_eq, bind_assoc]
  rfl

theorem HealthMonitor.testLogin_eq (station : Station) (server : Server) :
    testLogin station server = callAll (calls station server) := by
  rw [calls, callAll_append, callAll_singleton, ← handshake_eq]
  rfl

/-- The outcome of a report, but for the word that it was sent. -/
def ReportOutcome.ending (outcome : ReportOutcome) : Except ReportError Unit :=
  outcome.result.map fun _ => ()

theorem HealthMonitor.went_check (station : Station) (others : List Station) (now : Instant)
    (server : Server) :
    ∃ session,
      check (station :: others) now server =
        (record (station :: others) now (server.encounter.verdict .caseInsensitive), session) ∧
      Went {} (calls station server)
        (server.encounter.phases ++ lastPhases (server.encounter.verdict .caseInsensitive))
        (server.encounter.verdict .caseInsensitive) session ∧
      session.journal = server.encounter.journal station.login := by
  have closes : ∀ session : Session, session.phase = .sending → session.connection.isSome →
      (Call.close.after session).phase = .closed := fun _ _ _ => rfl
  obtain ⟨outcome, session, went, concludes⟩ :=
    went_conversation server station.login .caseInsensitive closes
  have same : outcome = server.encounter.verdict .caseInsensitive ∧
      session.journal = server.encounter.journal station.login := by
    cases concludes with
    | failed verdict journal => exact ⟨verdict.symm, journal⟩
    | made verdict _ _ journal made =>
      cases made
      exact ⟨verdict.symm, journal⟩
  obtain ⟨rfl, journal⟩ := same
  have performed : perform (testLogin station server) {} = (_, session) :=
    (testLogin_eq station server).symm ▸ went.perform_eq
  refine ⟨session, ?_, went, journal⟩
  simp only [check, performed]

theorem Session.perform_handshake_verdict (server : Server) (login : Login) (mode : Verification) :
    (perform (handshake server login mode) {}).1 = server.encounter.verdict mode := by
  obtain ⟨after, went, -⟩ := went_handshake server login mode
  rw [handshake_eq, went.perform_eq]

theorem Session.closed_after_sendLine (line : String) (session : Session)
    (phase : session.phase = .sending) (connected : session.connection.isSome) :
    ((Call.sendLine line).after session).phase = .closed := by
  obtain ⟨connection, held⟩ := Option.isSome_iff_exists.mp connected
  rw [Call.after, Call.conversation, perform_sendLine held phase]
  split <;> rfl

/-- Behind a handshake a report writes its line, or a part of it. -/
theorem Session.Concludes.written {encounter : Encounter} {login : Login} {line : String}
    {outcome : Except ReportError Unit} {after : Session} {mode : Verification}
    (concludes : Concludes encounter login mode (.sendLine line) outcome after) :
    ∃ written, after.journal = encounter.journal login ++ written ∧
      ∀ event ∈ written, ∃ part complete, event = .wrote part complete ∧
        part <+: encode (line ++ "\r\n") := by
  cases concludes with
  | failed _ journal => exact ⟨[], by simp [journal], by simp⟩
  | made _ phase connected journal made =>
    obtain ⟨connection, held⟩ := Option.isSome_iff_exists.mp connected
    rw [Call.conversation, perform_sendLine held phase] at made
    split at made
    · next sent _ _ _ =>
      cases made
      refine ⟨[.wrote ((encode (line ++ "\r\n")).take sent) false], ?_, ?_⟩
      · simp [dropped, noting, journal]
      · simpa using List.take_prefix _ _
    · cases made
      exact ⟨[.wrote (encode (line ++ "\r\n")) true], by simp [dropped, noting, journal], by simp⟩

theorem Transmitter.went_transmit (transmitter : Transmitter Attempt) (reading : Reading)
    (server : Server) (dayRain : Binary32) :
    Went {} (calls transmitter.station server
          (WeatherLine.render transmitter.station reading dayRain))
        (server.encounter.phases ++ lastPhases (server.encounter.verdict .caseSensitive))
        (transmitter.transmit reading server dayRain).ending
        (transmitter.transmit reading server dayRain).session ∧
      Concludes server.encounter transmitter.station.login .caseSensitive
        (.sendLine (WeatherLine.render transmitter.station reading dayRain))
        (transmitter.transmit reading server dayRain).ending
        (transmitter.transmit reading server dayRain).session := by
  obtain ⟨outcome, after, went, concludes⟩ := went_conversation server transmitter.station.login
    .caseSensitive (closed_after_sendLine (WeatherLine.render transmitter.station reading dayRain))
  have performed := went.perform_eq
  have same : (transmitter.transmit reading server dayRain).ending = outcome ∧
      (transmitter.transmit reading server dayRain).session = after := by
    unfold transmit
    rw [send_eq, calls, perform_bind, performed]
    cases outcome <;> exact ⟨rfl, rfl⟩
  rw [same.1, same.2]
  exact ⟨went, concludes⟩

/-- A report and a login test of the same station that met the same. -/
structure Transmitter.TestedAlike (station : Station) (line : String) (server tested : Server)
    (report : ReportOutcome) (test : HealthRecord × Session) : Prop where
  /-- They have the same on the wire, but for the line of the report behind all the rest. -/
  wire : ∃ written, report.session.journal = test.2.journal ++ written ∧
    ∀ event ∈ written, ∃ part complete, event = .wrote part complete ∧
      part <+: encode (line ++ "\r\n")
  login : test.2.sent <+: encode station.login.text
  phases : ¬ server.encounter.VerifiedButForCase → ∃ phases outcome,
    Went {} (calls station server line) phases report.ending report.session ∧
      Went {} (HealthMonitor.calls station tested) phases outcome test.2
  parted : server.encounter.VerifiedButForCase → ∃ phases reply,
    Went {} (calls station server line) (phases ++ [.closed])
        (.error (.protocolViolation (.notVerified reply))) report.session ∧
      Went {} (HealthMonitor.calls station tested) (phases ++ [.sending, .closed]) (.ok ()) test.2
  /-- Where the handshake fails, both of them tell why. -/
  failed : ∀ error, (perform (handshake server station.login .caseSensitive) {}).1 = .error error →
    report.result = .error error ∧
      (¬ server.encounter.VerifiedButForCase → test.1.error = some error.message)
  healthy_iff : test.1.status = .healthy ↔
    (perform (handshake tested station.login .caseInsensitive) {}).1 = .ok ()
  healthy_of_sent : report.result = .ok .sent → test.1.status = .healthy

theorem Session.Encounter.sentBy_journal (encounter : Encounter) (login : Login) :
    sentBy (encounter.journal login) <+: encode login.text := by
  cases encounter with
  | loginBroken greeting sent fault =>
    simpa [Encounter.journal, sentBy, WireEvent.sent] using List.take_prefix _ _
  | undialed | noGreeting | badGreeting => exact List.nil_prefix
  | noReply | replied => simp [Encounter.journal, sentBy, WireEvent.sent]

theorem ReportOutcome.ending_eq_error_iff {outcome : ReportOutcome} {error : ReportError} :
    outcome.ending = .error error ↔ outcome.result = .error error := by
  unfold ending
  cases outcome.result <;> simp [Except.map]

theorem Session.Concludes.eq_verdict {encounter : Encounter} {login : Login} {mode : Verification}
    {last : Call} {outcome : Except ReportError Unit} {after : Session} {error : ReportError}
    (concludes : Concludes encounter login mode last outcome after)
    (verdict : encounter.verdict mode = .error error) : outcome = .error error := by
  cases concludes with
  | failed failed _ => exact failed.symm.trans verdict
  | made passed => exact absurd (passed.symm.trans verdict) (by simp)

theorem HealthMonitor.status_record {stations : List Station} {now : Instant}
    {outcome : Except ReportError Unit} :
    (record stations now outcome).status = .healthy ↔ outcome = .ok () := by
  cases outcome <;> simp [record]

theorem Transmitter.testedAlike_transmit (transmitter : Transmitter Attempt) (reading : Reading)
    (dayRain : Binary32) (others : List Station) (now : Instant) {server tested : Server}
    (same : server.encounter = tested.encounter) :
    TestedAlike transmitter.station (WeatherLine.render transmitter.station reading dayRain)
      server tested (transmitter.transmit reading server dayRain)
      (HealthMonitor.check (transmitter.station :: others) now tested) := by
  obtain ⟨went, concludes⟩ := transmitter.went_transmit reading server dayRain
  obtain ⟨session, checked, wentTest, journal⟩ :=
    HealthMonitor.went_check transmitter.station others now tested
  rw [checked]
  rw [← same] at wentTest journal ⊢
  have agree : ¬ server.encounter.VerifiedButForCase →
      server.encounter.verdict .caseSensitive = server.encounter.verdict .caseInsensitive :=
    fun usual => not_not.mp (mt server.encounter.verdict_ne_iff.mp usual)
  refine ⟨?wire, ?login, ?phases, ?parted, ?failed, ?healthy_iff, ?healthy_of_sent⟩
  case wire =>
    obtain ⟨written, behind, part⟩ := concludes.written
    exact ⟨written, by rw [behind, journal], part⟩
  case login =>
    change sentBy session.journal <+: _
    rw [journal]
    exact server.encounter.sentBy_journal _
  case phases =>
    intro usual
    rw [agree usual] at went
    exact ⟨_, _, went, wentTest⟩
  case parted =>
    intro butForCase
    obtain ⟨passed, greeting, reply, -, refused⟩ := butForCase.verdicts
    have ending := concludes.eq_verdict refused
    rw [ending, refused] at went
    rw [passed] at wentTest
    exact ⟨_, reply, went, wentTest⟩
  case failed =>
    intro error failed
    rw [perform_handshake_verdict] at failed
    refine ⟨ReportOutcome.ending_eq_error_iff.mp (concludes.eq_verdict failed), fun usual => ?_⟩
    rw [← agree usual, failed]
    rfl
  case healthy_iff =>
    rw [perform_handshake_verdict, ← same]
    exact HealthMonitor.status_record
  case healthy_of_sent =>
    intro sent
    have succeeded : (transmitter.transmit reading server dayRain).ending = .ok () := by
      rw [ReportOutcome.ending, sent]
      rfl
    have passed : server.encounter.verdict .caseSensitive = .ok () := by
      cases verdict : server.encounter.verdict .caseSensitive with
      | ok => rfl
      | error error => exact absurd (succeeded.symm.trans (concludes.eq_verdict verdict)) (by simp)
    apply HealthMonitor.status_record.mpr
    by_cases butForCase : server.encounter.VerifiedButForCase
    · exact butForCase.verdicts.1
    · exact (agree butForCase).symm.trans passed

/-- A report and a login test of the same station, with servers that are met alike. The handshakes
come to the same but for a reply that is verified only up to its case. There the test is passed and
the report is given up; otherwise both go through the same phases. What they leave on the wire is the
same up to the line of the report, and where a report is sent the test is passed. -/
theorem report_and_check_agree (transmitter : Transmitter Attempt) (clock : WallClock)
    (readings : CurrentReadings) (others : List Station) (now : Instant) {server tested : Server}
    (same : server.encounter = tested.encounter) :
    ((perform (handshake server transmitter.station.login .caseSensitive) {}).1 ≠
        (perform (handshake tested transmitter.station.login .caseInsensitive) {}).1 ↔
      server.encounter.VerifiedButForCase) ∧
    match readings.latest transmitter.station.name with
    | none => transmitter.report clock readings server = .ok ⟨.ok .noReading, {}⟩
    | some reading =>
      (transmitter.report clock readings server = .error .crash ∧ transmitter.RainCrashes clock) ∨
      ∃ dayRain report, transmitter.report clock readings server = .ok report ∧
        transmitter.ReportsRain clock reading dayRain ∧
        Transmitter.TestedAlike transmitter.station
          (WeatherLine.render transmitter.station reading dayRain) server tested report
          (HealthMonitor.check (transmitter.station :: others) now tested) := by
  constructor
  · rw [perform_handshake_verdict, perform_handshake_verdict, ← same]
    exact server.encounter.verdict_ne_iff
  · rw [Transmitter.report_eq]
    cases readings.latest transmitter.station.name with
    | none => rfl
    | some reading =>
      dsimp only
      rcases transmitter.dayRain_cases clock reading with
        ⟨crashed, source⟩ | ⟨dayRain, computed, reported⟩
      · exact .inl ⟨by rw [crashed]; rfl, source⟩
      · refine .inr ⟨dayRain, transmitter.transmit reading server dayRain, ?_, reported,
          transmitter.testedAlike_transmit reading dayRain others now same⟩
        rw [computed]
        rfl

/-- A reply in capital letters, once in one piece and once in three. The report is given up, and the
test is passed. -/
theorem report_and_check_part_at_capitals :
    let station : Station := {
      name := "backyard", callsign := "N0CALL-13", passcode := 13023, latitude := 49.5
      longitude := -72.75, symbolTable := '/', symbolCode := '_', comment := none }
    let reading : Reading := { timestamp := .epoch, stationName := "backyard", outTemp := 68 }
    let transmitter : Transmitter Attempt := { station }
    let readings := ((CurrentReadings.ofStations ["backyard"]).store reading).2
    let server : Server := {
      arrivals := [.bytes (encode "# aprsc\r\n# logresp VERIFIED\r\n")] }
    let tested : Server := {
      arrivals := [.bytes (encode "# apr"), .bytes (encode "sc\r\n# logresp VERI"),
        .bytes (encode "FIED\r\n")]
      writes := [.complete, .broken 3 .unexpectedEnd] }
    server.encounter = tested.encounter ∧
      ∃ report, transmitter.report ⟨.fixed 0, .epoch⟩ readings server = .ok report ∧
        report.result =
          .error (.protocolViolation (.notVerified "# logresp VERIFIED\r\n")) ∧
        (HealthMonitor.check [station] .epoch tested).1.status = .healthy := by
  intro station reading transmitter readings server tested
  have same : server.encounter = tested.encounter := by decide +kernel
  have kept : readings.latest transmitter.station.name = some reading := by decide +kernel
  have agree := (report_and_check_agree transmitter ⟨.fixed 0, .epoch⟩ readings [] .epoch same).2
  rw [kept] at agree
  refine ⟨same, ?_⟩
  rcases agree with ⟨-, source, attached, -⟩ | ⟨dayRain, report, reported, -, alike⟩
  · cases attached
  · refine ⟨report, reported, (alike.failed _ ?_).1, alike.healthy_iff.mpr ?_⟩
    · decide +kernel
    · decide +kernel

end WeatherRelay
