import WeatherRelay.Station

/-! One conversation with the server: dial, greeting, login, verification, and at most one line
of report.

A server is the script of what it does to a connection, so everything here is a function of that
script. Every call either moves the session to its next phase or closes it, except that a call in
the wrong phase changes nothing.
-/

set_option autoImplicit false

namespace WeatherRelay

open Text.Utf8 (Bytes)

/-- What the reading side of a connection meets. -/
inductive Arrival where
  | bytes (chunk : Bytes)
  | endOfStream
  | failure (fault : IoFault)
  /-- Nothing within the deadline. -/
  | silence
  deriving DecidableEq, Repr

inductive WriteOutcome where
  | complete
  /-- Some bytes went out before the fault. -/
  | broken (sent : Nat) (fault : IoFault)
  deriving DecidableEq, Repr

/-- What a server does to a connection. Nothing arrives behind the end of the list of arrivals,
and writes behind the end of theirs are complete. -/
structure Server where
  dialFault : Option IoFault := none
  arrivals : List Arrival := []
  writes : List WriteOutcome := []
  deriving DecidableEq, Repr

structure Connection where
  /-- Bytes that arrived and were not read. -/
  buffered : Bytes := []
  arrivals : List Arrival
  writes : List WriteOutcome
  deriving DecidableEq, Repr

/-- What a session notes of its dealings with the server. -/
inductive WireEvent where
  | dialed
  | received (line : String)
  /-- Bytes that went out, and whether they are all that was to be written. -/
  | wrote (bytes : Bytes) (complete : Bool)
  deriving DecidableEq, Repr

def WireEvent.sent : WireEvent → Bytes
  | wrote bytes _ => bytes
  | _ => []

structure Session where
  phase : Phase := .idle
  connection : Option Connection := none
  /-- In the order in which it happened. -/
  journal : List WireEvent := []
  deriving DecidableEq, Repr

def Session.dials (session : Session) : Nat := session.journal.count .dialed

def Session.sent (session : Session) : Bytes := session.journal.flatMap WireEvent.sent

/-- How a reply to a login is looked at. -/
inductive Verification where
  | caseSensitive
  | caseInsensitive
  deriving DecidableEq, Repr

def occursIn (wanted : List Char) : List Char → Bool
  | [] => wanted.isEmpty
  | c :: rest => wanted.isPrefixOf (c :: rest) || occursIn wanted rest

def Verification.accepts (mode : Verification) (reply : String) : Bool :=
  let characters :=
    match mode with
    | .caseSensitive => reply.toList
    | .caseInsensitive => reply.toList.map Char.toLower
  occursIn "verified".toList characters

/-- The bytes up to the first newline and the rest; none where there is no newline. -/
def splitLine? : Bytes → Option (Bytes × Bytes)
  | [] => none
  | b :: rest =>
    if b = 10 then some ([b], rest)
    else (splitLine? rest).map fun (line, rest) => (b :: line, rest)

/-- A line with its newline, the bytes read behind it, and what is still to arrive. -/
structure RawLine where
  line : Bytes
  rest : Bytes
  arrivals : List Arrival
  deriving DecidableEq, Repr

/-- Read up to a newline or the end of the stream. -/
def readRawLine (buffered : Bytes) : List Arrival → Except IoFault RawLine
  | [] =>
    match splitLine? buffered with
    | some (line, rest) => .ok ⟨line, rest, []⟩
    | none => .error .deadline
  | arrival :: arrivals =>
    match splitLine? buffered with
    | some (line, rest) => .ok ⟨line, rest, arrival :: arrivals⟩
    | none =>
      match arrival with
      | .bytes chunk => readRawLine (buffered ++ chunk) arrivals
      | .endOfStream => .ok ⟨buffered, [], .endOfStream :: arrivals⟩
      | .failure fault => .error fault
      | .silence => .error .deadline

namespace Session

/-- A call on a session. An error leaves the session as it then is. -/
abbrev Conversation := ExceptT ReportError (StateM Session)

def requirePhase (expected : Phase) : Conversation Unit := do
  let session ← get
  if session.phase = expected then pure ()
  else throw (.protocolViolation (.wrongPhase session.phase expected))

def enter (phase : Phase) : Conversation Unit := modify fun session => { session with phase }

def note (event : WireEvent) : Conversation Unit :=
  modify fun session => { session with journal := session.journal ++ [event] }

/-- Drop the connection, close the session and fail. -/
def fail {α : Type} (error : ReportError) : Conversation α := do
  modify fun session => { session with phase := .closed, connection := none }
  throw error

def abort {α : Type} (violation : Violation) : Conversation α := fail (.protocolViolation violation)

def requireConnection (activity : Activity) : Conversation Connection := do
  match (← get).connection with
  | some connection => pure connection
  | none => throw (.protocolViolation (.notConnected activity))

/-- Read a line with its newline, or the unterminated end of the stream. -/
def readLine (activity : Activity) : Conversation String := do
  let connection ← requireConnection activity
  match readRawLine connection.buffered connection.arrivals with
  | .error fault => fail (.connection activity fault)
  | .ok ⟨[], _, _⟩ => fail (.connection activity .unexpectedEnd)
  | .ok ⟨line, rest, arrivals⟩ =>
    match Text.Utf8.decode line with
    | .error place => fail (.connection activity (.notUtf8 place))
    | .ok text => do
      note (.received text)
      modify fun session =>
        { session with connection := some { connection with buffered := rest, arrivals } }
      pure text

def write (activity : Activity) (text : String) : Conversation Unit := do
  let connection ← requireConnection activity
  let bytes := Text.Utf8.encode text
  match connection.writes with
  | .broken sent fault :: _ => do
    note (.wrote (bytes.take sent) false)
    fail (.connection activity fault)
  | [] | .complete :: _ => do
    note (.wrote bytes true)
    modify fun session =>
      { session with connection := some { connection with writes := connection.writes.tail } }

def connect (server : Server) : Conversation Unit := do
  requirePhase .idle
  enter .connecting
  note .dialed
  match server.dialFault with
  | some fault => fail (.connection .dialing fault)
  | none =>
    modify fun session =>
      { session with
        connection := some { arrivals := server.arrivals, writes := server.writes }
        phase := .awaitGreeting }

/-- A line that starts with `#`. -/
def readGreeting : Conversation String := do
  requirePhase .awaitGreeting
  let greeting ← readLine .readingGreeting
  if greeting.toList.head? != some '#' then abort (.badGreeting greeting)
  else do
    enter .loggingIn
    pure greeting

def logIn (login : Login) : Conversation Unit := do
  requirePhase .loggingIn
  write .sendingLogin login.text
  enter .awaitVerification

/-- A line that starts with `#` and says that the login is verified. -/
def awaitVerification (mode : Verification) : Conversation String := do
  requirePhase .awaitVerification
  let reply ← readLine .readingReply
  if reply.toList.head? != some '#' then abort (.badReply reply)
  else if !mode.accepts reply then abort (.notVerified reply)
  else do
    enter .sending
    pure reply

def close : Conversation Unit :=
  modify fun session => { session with phase := .closed, connection := none }

/-- Send one line and close. -/
def sendLine (line : String) : Conversation Unit := do
  requirePhase .sending
  write .sendingReport (line ++ "\r\n")
  close

def handshake (server : Server) (login : Login) (mode : Verification) : Conversation Unit := do
  connect server
  discard readGreeting
  logIn login
  discard (awaitVerification mode)

/-- The outcome of a call on a session, and the session afterwards. -/
def perform {α : Type} (call : Conversation α) (session : Session) :
    Except ReportError α × Session :=
  call.run.run session

end Session

end WeatherRelay
