import WeatherRelay.Health.Monitor
import WeatherRelay.Proofs.Session.ByteStream
import WeatherRelay.Proofs.Session.Progress
import WeatherRelay.Transmitter

/-! What a transmitter and the login test put on the wire.

Both run one conversation from the dial on. What holds of every journal of such a conversation
holds here for every server, and the report is settled before the dial.
-/

set_option autoImplicit false

namespace WeatherRelay

open Session Text.Utf8

/-- A reply says that the login is verified, in just these letters. -/
def SaysVerified (reply : String) : Prop := "verified".toList <:+: reply.toList

namespace Transmitter

variable {transmitter : Transmitter Attempt} {clock : WallClock} {reading : Reading}

/-- The day's rain in a report: the computed total where there is one, and the station's own
otherwise. There is none where the computation crashes. -/
def ReportsRain (transmitter : Transmitter Attempt) (clock : WallClock) (reading : Reading)
    (dayRain : Binary32) : Prop :=
  match transmitter.rain with
  | none => dayRain = reading.dayRain
  | some source =>
    match source.dailyRainfall transmitter.station.name clock with
    | .ok total => dayRain = total
    | .error (.failure _) => dayRain = reading.dayRain
    | .error .crash => False

/-- The computation of the day's rain crashes. -/
def RainCrashes (transmitter : Transmitter Attempt) (clock : WallClock) : Prop :=
  ∃ source, transmitter.rain = some source ∧
    source.dailyRainfall transmitter.station.name clock = .error .crash

theorem dayRain_cases (transmitter : Transmitter Attempt) (clock : WallClock) (reading : Reading) :
    (transmitter.dayRain clock reading = .error .crash ∧ transmitter.RainCrashes clock) ∨
      ∃ dayRain, transmitter.dayRain clock reading = .ok dayRain ∧
        transmitter.ReportsRain clock reading dayRain := by
  unfold dayRain ReportsRain RainCrashes
  cases transmitter.rain with
  | none => exact .inr ⟨_, rfl, rfl⟩
  | some source =>
    cases total : source.dailyRainfall transmitter.station.name clock with
    | ok inches => exact .inr ⟨inches, by simp only [total]; rfl, by simp only [total]⟩
    | error setback =>
      cases setback with
      | failure cause => exact .inr ⟨reading.dayRain, by simp only [total]; rfl, by simp only [total]⟩
      | crash => exact .inl ⟨by simp only [total]; rfl, source, rfl, total⟩

/-- What is sent for a reading depends on its text only. -/
def transmit (transmitter : Transmitter Attempt) (reading : Reading) (server : Server)
    (dayRain : Binary32) : ReportOutcome :=
  let (result, session) := perform
    (send transmitter.station server (WeatherLine.render transmitter.station reading dayRain)) {}
  ⟨result, session⟩

theorem report_eq (transmitter : Transmitter Attempt) (clock : WallClock)
    (readings : CurrentReadings) (server : Server) :
    transmitter.report clock readings server =
      match readings.latest transmitter.station.name with
      | none => .ok ⟨.ok .noReading, {}⟩
      | some reading => (transmitter.dayRain clock reading).map (transmitter.transmit reading server) := by
  unfold report
  cases readings.latest transmitter.station.name with
  | none => rfl
  | some reading =>
    cases h : transmitter.dayRain clock reading with
    | error setback => simp only [h]; rfl
    | ok dayRain => simp only [h]; rfl

theorem send_cases (station : Station) (server : Server) (line : String) :
    (∃ after, perform (send station server line) {} = (.ok .sent, after) ∧
      Standing (encode station.login.text) (encode (line ++ "\r\n")) SaysVerified .closed after) ∨
    ∃ error after, perform (send station server line) {} = (.error error, after) ∧
      Broken (encode station.login.text) (encode (line ++ "\r\n")) SaysVerified after := by
  have accepts : ∀ reply, Verification.caseSensitive.accepts reply = true → SaysVerified reply :=
    fun _ => occursIn_iff.mp
  have advances := (handshake_advances server station.login accepts).bind
    fun _ _ verified => sendLine_advances line verified
  -- The conversation proper first, and then its answer.
  have parts : send station server line =
      (handshake server station.login .caseSensitive >>= fun _ => sendLine line) >>= fun _ =>
        pure .sent := by
    rw [bind_assoc]
    rfl
  rw [parts, perform_bind]
  rcases outcome : perform (handshake server station.login .caseSensitive >>= fun _ =>
    sendLine line) {} with ⟨error | _, after⟩
  · rw [outcome] at advances
    exact .inr ⟨error, after, rfl, advances⟩
  · rw [outcome] at advances
    exact .inl ⟨after, rfl, advances⟩

/-- A report over one conversation: its writes are in turn, it is sent if and only if both of them
are completed, and the connection is closed. -/
structure WritesReport (station : Station) (line : String) (outcome : ReportOutcome) : Prop where
  inTurn : WritesInTurn (encode station.login.text) (encode (line ++ "\r\n")) SaysVerified
    outcome.session.journal
  sent_iff : outcome.result = .ok .sent ↔ completedWrites outcome.session.journal =
    [encode station.login.text, encode (line ++ "\r\n")]
  closed : outcome.session.connection = none

theorem writesReport_transmit (transmitter : Transmitter Attempt) (reading : Reading)
    (server : Server) (dayRain : Binary32) :
    WritesReport transmitter.station
      (WeatherLine.render transmitter.station reading dayRain)
      (transmitter.transmit reading server dayRain) := by
  unfold transmit
  rcases send_cases transmitter.station server
    (WeatherLine.render transmitter.station reading dayRain) with
    ⟨after, outcome, standing⟩ | ⟨error, after, outcome, broken⟩
  · rw [outcome]
    refine ⟨standing.course.writesInTurn, iff_of_true rfl standing.course.completed, ?_⟩
    exact Option.isNone_iff_eq_none.mp (by simpa using standing.connected)
  · rw [outcome]
    refine ⟨broken.cut.writesInTurn, iff_of_false (by simp) ?_, broken.connection⟩
    -- A conversation that was cut short completed one write at most.
    intro both
    have atMostOne := broken.cut.completed_le_one
    simp [both] at atMostOne

/-- The first two lines of a stream are a greeting and a confirmation of the login. -/
def Admits (stream : Bytes) : Prop :=
  ∃ greeting reply, firstLine stream = encode greeting ∧ Marked greeting ∧
    firstLine (behindLine stream) = encode reply ∧ Marked reply ∧ SaysVerified reply

/-- A server that admits the station and takes what is written gets the report. -/
theorem transmit_sending {chunks : List Bytes} (admits : Admits chunks.flatten)
    (transmitter : Transmitter Attempt) (reading : Reading) (dayRain : Binary32) :
    (transmitter.transmit reading (.sending chunks) dayRain).result = .ok .sent := by
  obtain ⟨greeting, reply, first, greets, second, marked, verified⟩ := admits
  have succeeds := (handshakeOver_ok_iff transmitter.station.login .caseSensitive chunks.flatten).mpr
    ⟨greeting, reply, first, greets, second, marked, accepts_iff.mp (occursIn_iff.mpr verified)⟩
  obtain ⟨outcome, -, goesOn⟩ :=
    handshake_sending transmitter.station.login .caseSensitive chunks
  obtain ⟨phase, connection, writes, connected⟩ := goesOn succeeds
  rw [succeeds] at outcome
  have sent := perform_sendLine connected phase
    (WeatherLine.render transmitter.station reading dayRain)
  rw [writes] at sent
  unfold transmit send
  rw [perform_bind]
  rcases shaken : perform (handshake (.sending chunks) transmitter.station.login .caseSensitive) {}
    with ⟨result, after⟩
  rw [shaken] at outcome sent
  cases outcome
  dsimp only at sent ⊢
  rw [perform_bind, sent]
  rfl

end Transmitter

/-- The login test writes the login at most, and leaves no connection. -/
theorem HealthMonitor.writesInTurn_check (station : Station) (others : List Station)
    (clock : Instant) (server : Server) :
    WritesInTurn (encode station.login.text) [] (fun _ => True)
        (check (station :: others) clock server).2.journal ∧
      (check (station :: others) clock server).2.connection = none := by
  have advances : Advances (encode station.login.text) [] (fun _ => True) .sending
      (perform (handshake server station.login .caseInsensitive) {}) :=
    handshake_advances server station.login fun _ _ => trivial
  change WritesInTurn _ _ _ (perform (testLogin station server) {}).2.journal ∧
    (perform (testLogin station server) {}).2.connection = none
  unfold testLogin
  rw [perform_bind]
  rcases outcome : perform (handshake server station.login .caseInsensitive) {} with
    ⟨error | _, after⟩
  · rw [outcome] at advances
    exact ⟨advances.cut.writesInTurn, advances.connection⟩
  · rw [outcome] at advances
    exact ⟨advances.course.writesInTurn, rfl⟩

/-- For every server: a station without a reading is not dialed for; the report of a reading, with
the rain that is computed for it, goes out in turn, and it is sent to a server that admits the
station; and so does the login of a login test. -/
theorem report_and_check_write_in_turn (transmitter : Transmitter Attempt) (clock : WallClock)
    (readings : CurrentReadings) (server : Server) (stations : List Station) (now : Instant) :
    (match readings.latest transmitter.station.name with
      | none => ∃ outcome, transmitter.report clock readings server = .ok outcome ∧
          outcome.result = .ok .noReading ∧ outcome.session.dials = 0 ∧
          outcome.session.sent = [] ∧ outcome.session.connection = none
      | some reading =>
        (transmitter.report clock readings server = .error .crash ∧
          transmitter.RainCrashes clock) ∨
        ∃ dayRain outcome, transmitter.report clock readings server = .ok outcome ∧
          transmitter.ReportsRain clock reading dayRain ∧
          Transmitter.WritesReport transmitter.station
            (WeatherLine.render transmitter.station reading dayRain) outcome ∧
          ∀ chunks, server = .sending chunks → Transmitter.Admits chunks.flatten →
            outcome.result = .ok .sent) ∧
    (match stations with
      | [] => (HealthMonitor.check stations now server).2 = {}
      | station :: _ =>
        WritesInTurn (encode station.login.text) [] (fun _ => True)
          (HealthMonitor.check stations now server).2.journal ∧
        (HealthMonitor.check stations now server).2.connection = none) := by
  constructor
  · rw [Transmitter.report_eq]
    cases readings.latest transmitter.station.name with
    | none => exact ⟨_, rfl, rfl, rfl, rfl, rfl⟩
    | some reading =>
      dsimp only
      rcases transmitter.dayRain_cases clock reading with
        ⟨crashed, source⟩ | ⟨dayRain, computed, reported⟩
      · exact .inl ⟨by rw [crashed]; rfl, source⟩
      · refine .inr ⟨dayRain, transmitter.transmit reading server dayRain, ?_, reported,
          transmitter.writesReport_transmit reading server dayRain, ?_⟩
        · rw [computed]
          rfl
        · rintro chunks rfl admits
          exact Transmitter.transmit_sending admits transmitter reading dayRain
  · cases stations with
    | nil => rfl
    | cons station others => exact HealthMonitor.writesInTurn_check station others now server

end WeatherRelay
