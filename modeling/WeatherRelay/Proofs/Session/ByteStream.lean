import WeatherRelay.Proofs.Session.Transcript
import WeatherRelay.Proofs.Text.Utf8

/-! A handshake with a server that sends some bytes and hangs up.

How the bytes are cut into chunks is lost as soon as they are read: a connection is as good as the
bytes still to be read from it. What the two lines of a handshake come to is said on these bytes.
-/

set_option autoImplicit false

namespace WeatherRelay

open Text.Utf8

/-- The bytes up to the first newline and with it, or all of them. -/
def firstLine (stream : Bytes) : Bytes :=
  stream.takeWhile (· ≠ 10) ++ (stream.dropWhile (· ≠ 10)).take 1

/-- The bytes behind the first line. -/
def behindLine (stream : Bytes) : Bytes := (stream.dropWhile (· ≠ 10)).drop 1

/-- Chunks that arrive one after the other, and then the end of the stream. -/
def arriving (chunks : List Bytes) : List Arrival := chunks.map .bytes ++ [.endOfStream]

/-- A server that can be dialed, takes all that is written, sends some chunks and hangs up. -/
def Server.sending (chunks : List Bytes) : Server := { arrivals := arriving chunks }

section Lines

variable {stream line rest : Bytes}

theorem firstLine_cons (b : UInt8) (stream : Bytes) :
    firstLine (b :: stream) = if b = 10 then [b] else b :: firstLine stream := by
  by_cases newline : b = 10 <;> simp [firstLine, newline]

theorem behindLine_cons (b : UInt8) (stream : Bytes) :
    behindLine (b :: stream) = if b = 10 then stream else behindLine stream := by
  by_cases newline : b = 10 <;> simp [behindLine, newline]

theorem line_of_split (split : splitLine? stream = some (line, rest)) :
    firstLine stream = line ∧ behindLine stream = rest := by
  induction stream generalizing line with
  | nil => cases split
  | cons b others ih =>
    rw [firstLine_cons, behindLine_cons]
    unfold splitLine? at split
    by_cases newline : b = 10
    · rw [if_pos newline] at split ⊢
      cases split
      exact ⟨rfl, if_pos newline⟩
    · rw [if_neg newline] at split ⊢
      obtain ⟨⟨first, _⟩, earlier, same⟩ := Option.map_eq_some_iff.mp split
      cases same
      obtain ⟨rfl, rfl⟩ := ih earlier
      exact ⟨rfl, if_neg newline⟩

theorem line_of_not_split (whole : splitLine? stream = none) :
    firstLine stream = stream ∧ behindLine stream = [] := by
  induction stream with
  | nil => exact ⟨rfl, rfl⟩
  | cons b others ih =>
    rw [firstLine_cons, behindLine_cons]
    unfold splitLine? at whole
    by_cases newline : b = 10
    · rw [if_pos newline] at whole
      cases whole
    · rw [if_neg newline] at whole ⊢
      obtain ⟨same, nothing⟩ := ih (Option.map_eq_none_iff.mp whole)
      exact ⟨congrArg (b :: ·) same, (if_neg newline).trans nothing⟩

theorem splitLine?_append (split : splitLine? stream = some (line, rest)) (more : Bytes) :
    splitLine? (stream ++ more) = some (line, rest ++ more) := by
  induction stream generalizing line with
  | nil => cases split
  | cons b others ih =>
    rw [List.cons_append]
    unfold splitLine? at split ⊢
    by_cases newline : b = 10
    · rw [if_pos newline] at split ⊢
      cases split
      rfl
    · rw [if_neg newline] at split ⊢
      obtain ⟨⟨first, _⟩, earlier, same⟩ := Option.map_eq_some_iff.mp split
      cases same
      rw [ih earlier]
      rfl

end Lines

-- Reading goes on where no line has ended in what is buffered; the stream as a whole stays.
theorem readRawLine_arriving (buffered : Bytes) (chunks : List Bytes) :
    ∃ rest later, readRawLine buffered (arriving chunks) =
        .ok ⟨firstLine (buffered ++ chunks.flatten), rest, arriving later⟩ ∧
      rest ++ later.flatten = behindLine (buffered ++ chunks.flatten) := by
  induction chunks generalizing buffered with
  | nil =>
    simp only [List.flatten_nil, List.append_nil]
    cases split : splitLine? buffered with
    | none =>
      obtain ⟨same, none⟩ := line_of_not_split split
      refine ⟨[], [], ?_, none.symm⟩
      rw [same]
      simp only [arriving, List.map_nil, List.nil_append, readRawLine, split]
    | some parts =>
      obtain ⟨line, rest⟩ := parts
      obtain ⟨rfl, rfl⟩ := line_of_split split
      refine ⟨_, [], ?_, List.append_nil _⟩
      simp only [arriving, List.map_nil, List.nil_append, readRawLine, split]
  | cons chunk chunks ih =>
    rw [List.flatten_cons, ← List.append_assoc]
    cases split : splitLine? buffered with
    | none =>
      have further : readRawLine buffered (arriving (chunk :: chunks)) =
          readRawLine (buffered ++ chunk) (arriving chunks) := by
        simp only [arriving, List.map_cons, List.cons_append, readRawLine, split]
      rw [further]
      exact ih (buffered ++ chunk)
    | some parts =>
      obtain ⟨line, rest⟩ := parts
      have longer := splitLine?_append split (chunk ++ chunks.flatten)
      rw [← List.append_assoc] at longer
      obtain ⟨rfl, behind⟩ := line_of_split longer
      refine ⟨rest, chunk :: chunks, ?_, behind.symm⟩
      simp only [arriving, List.map_cons, List.cons_append, readRawLine, split]

/-- The line that a stream begins with, as text. -/
def lineOf (stream : Bytes) : Except IoFault String :=
  match firstLine stream with
  | [] => .error .unexpectedEnd
  | line => (decode line).mapError .notUtf8

/-- A connection from which these bytes are still to be read, and on which writing goes well. -/
structure Connection.Yields (connection : Connection) (stream : Bytes) : Prop where
  stream : ∃ chunks, connection.arrivals = arriving chunks ∧
    connection.buffered ++ chunks.flatten = stream
  writes : connection.writes = []

theorem Connection.Yields.nextLine {connection : Connection} {stream : Bytes}
    (yields : connection.Yields stream) :
    match lineOf stream with
    | .error fault => connection.nextLine? = .error fault
    | .ok text => ∃ rest, connection.nextLine? = .ok (text, rest) ∧
        rest.Yields (behindLine stream) := by
  obtain ⟨⟨chunks, arrivals, rfl⟩, writes⟩ := yields
  obtain ⟨rest, later, read, remaining⟩ := readRawLine_arriving connection.buffered chunks
  unfold nextLine? lineOf
  rw [arrivals, read]
  cases firstLine (connection.buffered ++ chunks.flatten) with
  | nil => rfl
  | cons first others =>
    dsimp only
    cases decode (first :: others) with
    | error place => rfl
    | ok text => exact ⟨_, rfl, ⟨later, rfl, remaining⟩, writes⟩

namespace Session

/-- A reply says that the login is verified; the mode tells whether the case of letters counts. -/
def Confirms (mode : Verification) (reply : String) : Prop :=
  ∃ part, part <:+: reply.toList ∧
    match mode with
    | .caseSensitive => part = "verified".toList
    | .caseInsensitive => part.map Char.toLower = "verified".toList

theorem accepts_iff {mode : Verification} {reply : String} :
    mode.accepts reply = true ↔ Confirms mode reply := by
  unfold Verification.accepts Confirms
  cases mode with
  | caseSensitive => exact occursIn_iff.trans (by simp)
  | caseInsensitive =>
    refine occursIn_iff.trans (List.infix_map_iff.trans ?_)
    simp only [eq_comm]

theorem lineOf_eq_ok_iff {stream : Bytes} {text : String} :
    lineOf stream = .ok text ↔ firstLine stream = encode text ∧ text ≠ "" := by
  have empty : encode "" = [] := by rw [encode_eq_flatMap]; rfl
  unfold lineOf
  cases firstLine stream with
  | nil =>
    refine ⟨nofun, ?_⟩
    rintro ⟨same, some⟩
    exact absurd (encode_injective (same.symm.trans empty.symm)) some
  | cons first others =>
    rw [← decode_eq_ok_iff]
    dsimp only
    cases decoded : decode (first :: others) with
    | error place => exact ⟨nofun, fun spelled => nomatch spelled.1⟩
    | ok text' =>
      refine ⟨?_, fun decoded => congrArg Except.ok (Except.ok.inj decoded.1)⟩
      rintro ⟨⟩
      refine ⟨rfl, ?_⟩
      rintro rfl
      cases (decode_eq_ok_iff.mp decoded).trans empty

/-- No line can be made of these bytes: there are none, or they are not UTF-8. -/
inductive Unreadable (activity : Activity) (line : Bytes) : ReportError → Prop where
  | missing : line = [] → Unreadable activity line (.connection activity .unexpectedEnd)
  | notText {place : Malformed} : (∀ text, line ≠ encode text) → decode line = .error place →
      Unreadable activity line (.connection activity (.notUtf8 place))

theorem unreadable_of_lineOf {stream : Bytes} {fault : IoFault} (activity : Activity)
    (failed : lineOf stream = .error fault) :
    Unreadable activity (firstLine stream) (.connection activity fault) := by
  unfold lineOf at failed
  cases line : firstLine stream with
  | nil =>
    rw [line] at failed
    cases failed
    exact .missing rfl
  | cons first others =>
    rw [line] at failed
    cases decoded : decode (first :: others) with
    | error place =>
      simp only [decoded] at failed
      cases failed
      refine .notText (fun text same => ?_) decoded
      rw [decode_eq_ok_iff.mpr same] at decoded
      cases decoded
    | ok text =>
      simp only [decoded] at failed
      cases failed

/-- What a handshake over a stream of bytes comes to, and the bytes it writes. -/
def handshakeOver (login : Login) (mode : Verification) (stream : Bytes) :
    Except ReportError Unit × Bytes :=
  match lineOf stream with
  | .error fault => (.error (.connection .readingGreeting fault), [])
  | .ok greeting =>
    if greeting.toList.head? = some '#' then
      match lineOf (behindLine stream) with
      | .error fault => (.error (.connection .readingReply fault), encode login.text)
      | .ok reply =>
        if reply.toList.head? = some '#' then
          if mode.accepts reply then (.ok (), encode login.text)
          else (.error (.protocolViolation (.notVerified reply)), encode login.text)
        else (.error (.protocolViolation (.badReply reply)), encode login.text)
    else (.error (.protocolViolation (.badGreeting greeting)), [])

theorem handshake_sending (login : Login) (mode : Verification) (chunks : List Bytes) :
    (perform (handshake (.sending chunks) login mode) {}).1 =
        (handshakeOver login mode chunks.flatten).1 ∧
      (perform (handshake (.sending chunks) login mode) {}).2.sent =
        (handshakeOver login mode chunks.flatten).2 ∧
      ((handshakeOver login mode chunks.flatten).1 = .ok () →
        (perform (handshake (.sending chunks) login mode) {}).2.phase = .sending ∧
        ∃ connection, connection.writes = [] ∧
          (perform (handshake (.sending chunks) login mode) {}).2.connection = some connection) := by
  have fresh : Connection.Yields { arrivals := arriving chunks, writes := [] } chunks.flatten :=
    ⟨⟨chunks, rfl, rfl⟩, rfl⟩
  have dialed : perform (connect (.sending chunks)) {} = (.ok (),
      { phase := .awaitGreeting, journal := [.dialed]
        connection := some { arrivals := arriving chunks, writes := [] } }) := rfl
  have first := fresh.nextLine
  unfold handshake handshakeOver
  rw [perform_bind, dialed]
  dsimp only
  rw [perform_bind, perform_discard, perform_readGreeting rfl rfl]
  cases greeted : lineOf chunks.flatten with
  | error fault =>
    rw [greeted] at first
    rw [first]
    exact ⟨rfl, rfl, fun passed => by cases passed⟩
  | ok greeting =>
    rw [greeted] at first
    obtain ⟨connection, read, yields⟩ := first
    rw [read]
    dsimp only
    by_cases marked : greeting.toList.head? = some '#'
    · rw [if_pos marked, if_pos marked]
      dsimp only [Except.map]
      rw [perform_bind, perform_logIn rfl rfl, yields.writes]
      dsimp only
      rw [perform_discard, perform_awaitVerification rfl rfl]
      have second : Connection.Yields { connection with writes := [] } (behindLine chunks.flatten) :=
        ⟨yields.stream, rfl⟩
      have second := second.nextLine
      cases replied : lineOf (behindLine chunks.flatten) with
      | error fault =>
        rw [replied] at second
        rw [List.tail_nil, second]
        simp [Session.sent, noting, dropped, WireEvent.sent, Except.map]
      | ok reply =>
        rw [replied] at second
        obtain ⟨connection, read, yields⟩ := second
        rw [List.tail_nil, read]
        dsimp only
        by_cases marked : reply.toList.head? = some '#'
        · rw [if_pos marked, if_pos marked]
          cases mode.accepts reply <;>
            simp [Session.sent, noting, dropped, WireEvent.sent, Except.map, yields.writes]
        · rw [if_neg marked, if_neg marked]
          simp [Session.sent, noting, dropped, WireEvent.sent, Except.map]
    · rw [if_neg marked, if_neg marked]
      exact ⟨rfl, rfl, fun passed => by cases passed⟩

section Verdict

variable (login : Login) (mode : Verification) (stream : Bytes)

/-- The first line of a stream is a greeting. -/
def Greets (greeting : String) : Prop := firstLine stream = encode greeting ∧ Marked greeting

/-- The answers to a handshake: the outcome, with the bytes that were written. -/
inductive Verdict : Except ReportError Unit → Bytes → Prop where
  | noGreeting {error : ReportError} : Unreadable .readingGreeting (firstLine stream) error →
      Verdict (.error error) []
  | badGreeting {greeting : String} : firstLine stream = encode greeting → greeting ≠ "" →
      ¬ Marked greeting → Verdict (.error (.protocolViolation (.badGreeting greeting))) []
  | noReply {greeting : String} {error : ReportError} : Greets stream greeting →
      Unreadable .readingReply (firstLine (behindLine stream)) error →
      Verdict (.error error) (encode login.text)
  | badReply {greeting reply : String} : Greets stream greeting →
      firstLine (behindLine stream) = encode reply → reply ≠ "" → ¬ Marked reply →
      Verdict (.error (.protocolViolation (.badReply reply))) (encode login.text)
  | notVerified {greeting reply : String} : Greets stream greeting →
      firstLine (behindLine stream) = encode reply → Marked reply → ¬ Confirms mode reply →
      Verdict (.error (.protocolViolation (.notVerified reply))) (encode login.text)
  | verified {greeting reply : String} : Greets stream greeting →
      firstLine (behindLine stream) = encode reply → Marked reply → Confirms mode reply →
      Verdict (.ok ()) (encode login.text)

theorem verdict_handshakeOver :
    Verdict login mode stream (handshakeOver login mode stream).1
      (handshakeOver login mode stream).2 := by
  unfold handshakeOver
  cases greeted : lineOf stream with
  | error fault => exact .noGreeting (unreadable_of_lineOf .readingGreeting greeted)
  | ok greeting =>
    obtain ⟨first, some⟩ := lineOf_eq_ok_iff.mp greeted
    dsimp only
    by_cases marked : greeting.toList.head? = .some '#'
    case neg =>
      rw [if_neg marked]
      exact .badGreeting first some marked
    rw [if_pos marked]
    have greets : Greets stream greeting := ⟨first, marked⟩
    cases replied : lineOf (behindLine stream) with
    | error fault => exact .noReply greets (unreadable_of_lineOf .readingReply replied)
    | ok reply =>
      obtain ⟨second, some⟩ := lineOf_eq_ok_iff.mp replied
      dsimp only
      by_cases marked : reply.toList.head? = .some '#'
      case neg =>
        rw [if_neg marked]
        exact .badReply greets second some marked
      rw [if_pos marked]
      by_cases accepted : mode.accepts reply = true
      · rw [if_pos accepted]
        exact .verified greets second marked (accepts_iff.mp accepted)
      · rw [if_neg accepted]
        exact .notVerified greets second marked fun confirms => accepted (accepts_iff.mpr confirms)

theorem lineOf_of_marked {stream : Bytes} {line : String} (first : firstLine stream = encode line)
    (marked : Marked line) : lineOf stream = .ok line := by
  refine lineOf_eq_ok_iff.mpr ⟨first, ?_⟩
  rintro rfl
  cases marked

theorem handshakeOver_ok_iff :
    (handshakeOver login mode stream).1 = .ok () ↔
      ∃ greeting reply, firstLine stream = encode greeting ∧ Marked greeting ∧
        firstLine (behindLine stream) = encode reply ∧ Marked reply ∧ Confirms mode reply := by
  constructor
  · intro succeeds
    have verdict := verdict_handshakeOver login mode stream
    rw [succeeds] at verdict
    generalize (handshakeOver login mode stream).2 = sent at verdict
    cases verdict with
    | verified greets second marked confirms =>
      exact ⟨_, _, greets.1, greets.2, second, marked, confirms⟩
  · rintro ⟨greeting, reply, first, greets, second, marked, confirms⟩
    unfold handshakeOver
    rw [lineOf_of_marked first greets, lineOf_of_marked second marked]
    dsimp only
    unfold Marked at greets marked
    rw [if_pos greets, if_pos marked, if_pos (accepts_iff.mpr confirms)]

/-- A handshake is decided by the bytes of the server, in whatever chunks they arrive. It succeeds
just where the first two lines are a greeting and a confirmation, and fails at the first line that
is not. -/
theorem handshake_decided_by_stream (chunks : List Bytes) :
    Verdict login mode chunks.flatten (perform (handshake (.sending chunks) login mode) {}).1
        (perform (handshake (.sending chunks) login mode) {}).2.sent ∧
      ((perform (handshake (.sending chunks) login mode) {}).1 = .ok () ↔
        ∃ greeting reply, firstLine chunks.flatten = encode greeting ∧ Marked greeting ∧
          firstLine (behindLine chunks.flatten) = encode reply ∧ Marked reply ∧
          Confirms mode reply) ∧
      ∀ others : List Bytes, others.flatten = chunks.flatten →
        (perform (handshake (.sending others) login mode) {}).1 =
            (perform (handshake (.sending chunks) login mode) {}).1 ∧
          (perform (handshake (.sending others) login mode) {}).2.sent =
            (perform (handshake (.sending chunks) login mode) {}).2.sent := by
  obtain ⟨outcome, sent, -⟩ := handshake_sending login mode chunks
  refine ⟨?_, ?_, fun others same => ?_⟩
  · rw [outcome, sent]
    exact verdict_handshakeOver login mode chunks.flatten
  · rw [outcome]
    exact handshakeOver_ok_iff login mode chunks.flatten
  · obtain ⟨outcome', sent', -⟩ := handshake_sending login mode others
    rw [same] at outcome' sent'
    exact ⟨outcome'.trans outcome.symm, sent'.trans sent.symm⟩

end Verdict

end Session

end WeatherRelay
