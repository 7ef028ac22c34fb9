import WeatherRelay.Proofs.Session.Calls
import WeatherRelay.Proofs.Station.NormalForm
import WeatherRelay.Proofs.Text.Utf8
import WeatherRelay.WeatherLine

/-! Whether what a station sends is a line each time.

Nothing that is written around the configured texts holds a break or a space of its own. So it only
depends on the callsign, the symbols and the comment whether a login has its six tokens and whether
a report ends where its line ends, and nothing keeps breaks and spaces out of them.
-/

set_option autoImplicit false

namespace WeatherRelay

open Text.Utf8 (Bytes encode)

def isBreak (c : Char) : Bool := c = '\r' || c = '\n'

/-- A text within one line. -/
def Unbroken (text : String) : Prop := ∀ c ∈ text.toList, isBreak c = false

namespace Unbroken

instance (text : String) : Decidable (Unbroken text) :=
  List.decidableBAll (fun c => isBreak c = false) text.toList

theorem append_iff {left right : String} :
    Unbroken (left ++ right) ↔ Unbroken left ∧ Unbroken right := by
  simp [Unbroken, or_imp, forall_and]

theorem char_iff {c : Char} : Unbroken c.toString ↔ isBreak c = false := by
  simp [Unbroken]

theorem of_digits {text : String} (digits : ∀ c ∈ text.toList, c.isDigit = true) :
    Unbroken text := by
  intro c member
  have bounds : 48 ≤ c.toNat := by
    have := digits c member
    simp only [Char.isDigit_iff_toNat] at this
    exact this.1
  have noReturn : c ≠ '\r' := by
    rintro rfl
    exact absurd bounds (by decide)
  have noFeed : c ≠ '\n' := by
    rintro rfl
    exact absurd bounds (by decide)
  simp [isBreak, noReturn, noFeed]

theorem zeroPad_toString (width n : Nat) : Unbroken (zeroPad width (toString n)) := by
  refine of_digits fun c member => ?_
  rw [Nat.toString_eq_repr, Decimal.toList_zeroPad_repr] at member
  exact Decimal.isDigit_of_mem_padded member

theorem paddedInt (width : Nat) (value : Int) : Unbroken (paddedInt width value) := by
  unfold WeatherRelay.paddedInt
  split
  · exact append_iff.mpr ⟨by decide, zeroPad_toString _ _⟩
  · exact zeroPad_toString _ _

theorem angleText (width : Nat) (angle : Binary64) {hemisphere : Char}
    (letter : isBreak hemisphere = false) :
    Unbroken (Position.angleText width angle hemisphere) := by
  unfold Position.angleText
  simp only [append_iff, char_iff, zeroPad_toString, letter, true_and, and_true]
  decide

end Unbroken

namespace WeatherLine

theorem unbroken_weatherBlock (reading : Reading) (dayRain : Binary32) :
    Unbroken (weatherBlock reading dayRain) := by
  simp only [weatherBlock, Unbroken.append_iff, Unbroken.paddedInt, true_and, and_true]
  decide

theorem unbroken_commentText {comment : Option String} :
    Unbroken (commentText comment) ↔ ∀ text ∈ comment, Unbroken text := by
  have space : Unbroken " " := by decide
  have empty : Unbroken "" := by decide
  cases comment <;> simp [commentText, Unbroken.append_iff, space, empty]

/-- A report is within one line if and only if the texts of its station are. -/
theorem unbroken_render_iff (station : Station) (reading : Reading) (dayRain : Binary32) :
    Unbroken (render station reading dayRain) ↔
      Unbroken station.callsign ∧ isBreak station.symbolTable = false ∧
        isBreak station.symbolCode = false ∧ ∀ text ∈ station.comment, Unbroken text := by
  have latitude : Unbroken (Position.latitudeText station.latitude) :=
    Unbroken.angleText _ _ (by split <;> decide)
  have longitude : Unbroken (Position.longitudeText station.longitude) :=
    Unbroken.angleText _ _ (by split <;> decide)
  have path : Unbroken ">APRS,TCPIP:!" := by decide
  have client : Unbroken "." ∧ Unbroken software ∧ Unbroken "-" ∧ Unbroken version := by decide
  simp only [render, positionBlock, Unbroken.append_iff, Unbroken.char_iff, latitude, longitude,
    path, client, unbroken_weatherBlock, unbroken_commentText, true_and, and_true, and_assoc]

end WeatherLine

/-- Bytes that end in carriage return and line feed, neither of which stands in front. -/
def IsProtocolLine (bytes : Bytes) : Prop :=
  ∃ body, bytes = body ++ [13, 10] ∧ 13 ∉ body ∧ 10 ∉ body

theorem unbroken_iff_encode {text : String} :
    Unbroken text ↔ 13 ∉ encode text ∧ 10 ∉ encode text := by
  have carriage := Text.Utf8.mem_encode_iff (by decide : 13 ≤ 127) text
  have feed := Text.Utf8.mem_encode_iff (by decide : 10 ≤ 127) text
  change (13 : UInt8) ∈ _ ↔ _ at carriage
  change (10 : UInt8) ∈ _ ↔ _ at feed
  rw [carriage, feed]
  simp only [Unbroken, isBreak, not_exists, not_and, Bool.or_eq_false_iff, decide_eq_false_iff_not,
    forall_and, ← Char.toNat_inj]
  rfl

/-- What goes out for a line is a single one if and only if there is no break in it. -/
theorem isProtocolLine_encode_iff {line : String} :
    IsProtocolLine (encode (line ++ "\r\n")) ↔ Unbroken line := by
  have bytes : encode (line ++ "\r\n") = encode line ++ [13, 10] := by
    have ending : encode "\r\n" = [13, 10] := by
      rw [Text.Utf8.encode_eq_flatMap]
      decide
    rw [Text.Utf8.encode_append, ending]
  rw [bytes, unbroken_iff_encode]
  constructor
  · rintro ⟨body, same, noReturn, noFeed⟩
    rw [List.append_inj_left' same rfl]
    exact ⟨noReturn, noFeed⟩
  · rintro ⟨noReturn, noFeed⟩
    exact ⟨encode line, rfl, noReturn, noFeed⟩

/-- A line of six tokens that logs in under a callsign with a passcode. -/
def LogsIn (line callsign : String) (passcode : UInt16) : Prop :=
  ∃ body digits client, line = body ++ "\r\n" ∧ Unbroken body ∧
    body.toList.splitOn ' ' =
      ["user".toList, callsign.toList, "pass".toList, digits, "vers".toList, client] ∧
    Station.passcodeOfText? (String.ofList digits) = some passcode

theorem splitOn_eq_singleton_iff (characters : List Char) :
    characters.splitOn ' ' = [characters] ↔ ' ' ∉ characters := by
  refine ⟨fun single member => ?_, List.splitOn_eq_singleton⟩
  obtain ⟨front, behind, rfl⟩ := List.append_of_mem member
  rw [List.splitOn_append_cons_self] at single
  have lengths := congrArg List.length single
  have left := List.length_pos_iff.mpr (List.splitOn_ne_nil ' ' front)
  have right := List.length_pos_iff.mpr (List.splitOn_ne_nil ' ' behind)
  simp only [List.length_append, List.length_singleton] at lengths
  omega

namespace Station

/-- The login without its line end. -/
def loginBody (station : Station) : String :=
  "user " ++ station.callsign ++ " pass " ++ toString station.passcode.toNat ++ " vers " ++
    software ++ "-" ++ version

theorem loginText_eq (station : Station) : station.login.text = station.loginBody ++ "\r\n" := rfl

theorem unbroken_loginBody (station : Station) :
    Unbroken station.loginBody ↔ Unbroken station.callsign := by
  have passcode : Unbroken (toString station.passcode.toNat) := Unbroken.of_digits fun c member =>
    Decimal.isDigit_of_mem_padded (Decimal.toList_toString _ ▸ member)
  have words : Unbroken "user " ∧ Unbroken " pass " ∧ Unbroken " vers " ∧ Unbroken software ∧
      Unbroken "-" ∧ Unbroken version := by decide
  simp only [loginBody, Unbroken.append_iff, passcode, words, true_and, and_true]

theorem splitOn_loginBody (station : Station) :
    station.loginBody.toList.splitOn ' ' = "user".toList :: (station.callsign.toList.splitOn ' ' ++
      ["pass".toList, (toString station.passcode.toNat).toList, "vers".toList,
        (software ++ "-" ++ version).toList]) := by
  have body : station.loginBody.toList = "user".toList ++ ' ' :: (station.callsign.toList ++
      ' ' :: ("pass".toList ++ ' ' :: ((toString station.passcode.toNat).toList ++
        ' ' :: ("vers".toList ++ ' ' :: (software ++ "-" ++ version).toList)))) := by
    simp [loginBody]
  have passcode : ' ' ∉ (toString station.passcode.toNat).toList := fun member =>
    absurd (Decimal.isDigit_of_mem_padded (Decimal.toList_toString _ ▸ member)) (by decide)
  have user : "user".toList.splitOn ' ' = ["user".toList] := by decide
  have pass : "pass".toList.splitOn ' ' = ["pass".toList] := by decide
  have vers : "vers".toList.splitOn ' ' = ["vers".toList] := by decide
  have client : (software ++ "-" ++ version).toList.splitOn ' ' =
      [(software ++ "-" ++ version).toList] := by decide
  simp only [body, List.splitOn_append_cons_self, user, pass, vers, client,
    List.splitOn_eq_singleton passcode, List.singleton_append]

/-- A login is a line of six tokens if and only if its callsign is one token. -/
theorem logsIn_iff (station : Station) :
    LogsIn station.login.text station.callsign station.passcode ↔
      Unbroken station.callsign ∧ ' ' ∉ station.callsign.toList := by
  constructor
  · rintro ⟨body, digits, client, line, unbroken, tokens, -⟩
    have same : station.loginBody = body := by
      rw [loginText_eq] at line
      exact (String.append_left_inj _).mp line
    rw [← same, splitOn_loginBody] at tokens
    rw [← same, unbroken_loginBody] at unbroken
    have single : station.callsign.toList.splitOn ' ' = [station.callsign.toList] :=
      List.append_inj_left' (List.cons.inj tokens).2 rfl
    exact ⟨unbroken, (splitOn_eq_singleton_iff _).mp single⟩
  · rintro ⟨unbroken, noSpace⟩
    refine ⟨station.loginBody, (toString station.passcode.toNat).toList,
      (software ++ "-" ++ version).toList, loginText_eq station,
      (unbroken_loginBody station).mpr unbroken, ?_, ?_⟩
    · rw [splitOn_loginBody, (splitOn_eq_singleton_iff _).mpr noSpace, List.singleton_append]
    · rw [String.ofList_toList]
      exact passcodeOfText?_eq_some_iff.mpr (spellsPasscode_toString station.passcode)

/-- What an accepted entry makes of its texts. -/
theorem texts_of_ofEntry {entry : StationEntry} {station : Station}
    (accepted : ofEntry entry = .ok (some station)) :
    ∃ report, entry.report = some report ∧
      station.callsign = String.ofList ((Text.trim report.callsign).toList.map Char.toUpper) ∧
      station.symbolTable = report.symbolTable.toList.head?.getD '/' ∧
      station.symbolCode = report.symbolCode.toList.head?.getD '_' ∧
      station.comment = report.comment.filter fun comment => Text.trim comment != "" := by
  obtain ⟨report, reported, -, kept⟩ := accepted_of_ofEntry accepted
  exact ⟨report, reported, kept.callsign_eq, kept.symbolTable_eq, kept.symbolCode_eq,
    Option.ext fun text => (kept.comment_iff text).trans kept_iff.symm⟩

end Station

theorem isBreak_toUpper (c : Char) : isBreak c.toUpper = isBreak c := by
  simp only [isBreak, toUpper_eq_iff (by decide : '\r'.toNat < 65),
    toUpper_eq_iff (by decide : '\n'.toNat < 65)]

/-- The texts of an entry stay within a line, as far as a station keeps them. -/
structure ReportEntry.SingleLine (report : ReportEntry) : Prop where
  callsign : Unbroken (Text.trim report.callsign)
  symbolTable : ∀ c ∈ report.symbolTable.toList.head?, isBreak c = false
  symbolCode : ∀ c ∈ report.symbolCode.toList.head?, isBreak c = false
  comment : ∀ text ∈ report.comment, Text.trim text ≠ "" → Unbroken text

section Kept

theorem unbroken_map_toUpper {callsign : String} :
    Unbroken (String.ofList (callsign.toList.map Char.toUpper)) ↔ Unbroken callsign := by
  simp [Unbroken, isBreak_toUpper]

theorem space_mem_map_toUpper {callsign : String} :
    ' ' ∈ (String.ofList (callsign.toList.map Char.toUpper)).toList ↔ ' ' ∈ callsign.toList := by
  simp [toUpper_eq_iff (by decide : ' '.toNat < 65)]

theorem isBreak_getD {first : Option Char} {other : Char} (plain : isBreak other = false) :
    isBreak (first.getD other) = false ↔ ∀ c ∈ first, isBreak c = false := by
  cases first <;> simp [plain]

theorem unbroken_filter {comment : Option String} :
    (∀ text ∈ comment.filter fun text => Text.trim text != "", Unbroken text) ↔
      ∀ text ∈ comment, Text.trim text ≠ "" → Unbroken text := by
  simp

end Kept

namespace Session

/-- The next write of a session goes out in full. -/
def Writes (session : Session) : Prop :=
  ∃ connection, session.connection = some connection ∧
    ∀ sent fault, connection.writes.head? ≠ some (.broken sent fault)

theorem perform_sendLine_writes {session : Session} (phase : session.phase = .sending)
    (writes : session.Writes) (line : String) :
    (perform (sendLine line) session).1 = .ok () ∧
      (perform (sendLine line) session).2.sent = session.sent ++ encode (line ++ "\r\n") := by
  obtain ⟨connection, connected, intact⟩ := writes
  rw [perform_sendLine connected phase]
  split
  · next sent fault rest script =>
    exact absurd (by rw [script, List.head?_cons]) (intact sent fault)
  · simp [Session.sent, noting, dropped, WireEvent.sent]

end Session

open WeatherLine (render)

/-- The login of an accepted entry is one line of six tokens that reads back if and only if the
configured callsign has neither spaces nor breaks within. Its reports are one line each, as texts and
on the wire, if and only if there is no break in the texts that they show. -/
theorem sent_lines_iff {entry : StationEntry} {station : Station}
    (accepted : Station.ofEntry entry = .ok (some station)) :
    ∃ report, entry.report = some report ∧
      (LogsIn station.login.text station.callsign station.passcode ↔
        Unbroken (Text.trim report.callsign) ∧ ' ' ∉ (Text.trim report.callsign).toList) ∧
      ∀ reading dayRain,
        (Unbroken (render station reading dayRain) ↔ report.SingleLine) ∧
        ∀ session : Session, session.phase = .sending → session.Writes →
          ∃ bytes after, Session.perform (Session.sendLine (render station reading dayRain)) session =
              (.ok (), after) ∧ after.sent = session.sent ++ bytes ∧
            (IsProtocolLine bytes ↔ report.SingleLine) := by
  obtain ⟨report, reported, callsign, symbolTable, symbolCode, comment⟩ :=
    Station.texts_of_ofEntry accepted
  have line : ∀ reading dayRain, Unbroken (render station reading dayRain) ↔ report.SingleLine := by
    intro reading dayRain
    rw [WeatherLine.unbroken_render_iff, callsign, symbolTable, symbolCode, comment,
      unbroken_map_toUpper, isBreak_getD (by decide), isBreak_getD (by decide), unbroken_filter]
    exact ⟨fun ⟨a, b, c, d⟩ => ⟨a, b, c, d⟩, fun ⟨a, b, c, d⟩ => ⟨a, b, c, d⟩⟩
  refine ⟨report, reported, ?_, fun reading dayRain => ⟨line reading dayRain, ?_⟩⟩
  · rw [Station.logsIn_iff, callsign, unbroken_map_toUpper, space_mem_map_toUpper]
  · intro session phase writes
    obtain ⟨outcome, sent⟩ := Session.perform_sendLine_writes phase writes
      (render station reading dayRain)
    exact ⟨_, _, Prod.ext outcome rfl, sent, isProtocolLine_encode_iff.trans (line reading dayRain)⟩

/-- Breaks around a callsign and in a comment of nothing else are left out, so that what is sent are
lines. -/
theorem sent_lines_trimmed :
    let report : ReportEntry := {
      callsign := " n0call-13\r\n", latitude := 49.5, longitude := -72.75, comment := some " \n" }
    let station : Station := {
      name := "backyard", callsign := "N0CALL-13", passcode := 13023, latitude := 49.5
      longitude := -72.75, symbolTable := '/', symbolCode := '_', comment := none }
    Station.ofEntry { name := "backyard", report := some report } = .ok (some station) ∧
      LogsIn station.login.text "N0CALL-13" 13023 ∧
      ∀ reading dayRain, Unbroken (render station reading dayRain) := by
  intro report station
  have accepted : Station.ofEntry { name := "backyard", report := some report } =
      .ok (some station) := by decide +kernel
  obtain ⟨same, reported, login, lines⟩ := sent_lines_iff accepted
  cases reported
  have trimmed : Text.trim report.callsign = "n0call-13" := by decide
  have blank : Text.trim " \n" = "" := by decide
  have table : report.symbolTable.toList.head? = some '/' := by decide
  have code : report.symbolCode.toList.head? = some '_' := by decide
  refine ⟨accepted, login.mpr ?_, fun reading dayRain => (lines reading dayRain).1.mpr ?_⟩
  · rw [trimmed]
    decide
  · constructor
    case callsign =>
      rw [trimmed]
      decide
    case symbolTable =>
      rw [table]
      rintro _ ⟨⟩
      rfl
    case symbolCode =>
      rw [code]
      rintro _ ⟨⟩
      rfl
    case comment =>
      rintro _ ⟨⟩ shown
      exact absurd blank shown

/-- A callsign typed with a space, and a comment over two lines. Both are accepted, the login has
seven tokens, and every report ends early with another line behind it. -/
theorem accepted_station_breaks_lines :
    let report : ReportEntry := {
      callsign := "N0CALL 13", latitude := 49.5, longitude := -72.75
      comment := some "Backyard\nWX" }
    let station : Station := {
      name := "backyard", callsign := "N0CALL 13", passcode := 8686, latitude := 49.5
      longitude := -72.75, symbolTable := '/', symbolCode := '_', comment := some "Backyard\nWX" }
    Station.ofEntry { name := "backyard", report := some report } = .ok (some station) ∧
      station.login.text = "user N0CALL 13 pass 8686 vers remoteweather-0.4.0\r\n" ∧
      ¬ LogsIn station.login.text station.callsign station.passcode ∧
      ∀ reading dayRain, ¬ Unbroken (render station reading dayRain) := by
  intro report station
  have space : ' ' ∈ station.callsign.toList := by decide
  have feed : ¬ Unbroken "Backyard\nWX" := by decide
  refine ⟨by decide +kernel, by decide +kernel, ?_, fun reading dayRain unbroken => ?_⟩
  · rw [Station.logsIn_iff]
    exact fun token => token.2 space
  · have texts := (WeatherLine.unbroken_render_iff station reading dayRain).mp unbroken
    exact feed (texts.2.2.2 _ rfl)

end WeatherRelay
