import WeatherRelay.Text.Quoted
import WeatherRelay.Text.Utf8
import WeatherRelay.Time.Stamp

/-! What can go wrong, and the words in which it is told. -/

set_option autoImplicit false

namespace WeatherRelay

/-- A fault of the system below a network or file operation. -/
inductive IoFault where
  | system (number : Nat)
  | unexpectedEnd
  | deadline
  | notUtf8 (place : Text.Utf8.Malformed)
  | addressMalformed
  | portMalformed
  /-- Anything else, in the words of the system. -/
  | told (text : String)
  deriving DecidableEq, Repr

namespace IoFault

def networkUnreachable : IoFault := .system 101

def connectionRefused : IoFault := .system 111

def noSuchFile : IoFault := .system 2

def notADirectory : IoFault := .system 20

/-- The system's own names for its numbered faults. -/
def systemText (number : Nat) : String :=
  match number with
  | 1 => "Operation not permitted"
  | 2 => "No such file or directory"
  | 13 => "Permission denied"
  | 17 => "File exists"
  | 20 => "Not a directory"
  | 21 => "Is a directory"
  | 22 => "Invalid argument"
  | 32 => "Broken pipe"
  | 36 => "File name too long"
  | 98 => "Address already in use"
  | 99 => "Cannot assign requested address"
  | 101 => "Network is unreachable"
  | 104 => "Connection reset by peer"
  | 110 => "Connection timed out"
  | 111 => "Connection refused"
  | 113 => "No route to host"
  | _ => "Unknown error " ++ toString number

def message : IoFault → String
  | system number => systemText number ++ " (os error " ++ toString number ++ ")"
  | unexpectedEnd => "unexpected end of file"
  | deadline => "deadline elapsed"
  | addressMalformed => "invalid socket address"
  | portMalformed => "invalid port value"
  | told text => text
  | notUtf8 place =>
    match place.offending with
    | some length =>
      "invalid utf-8 sequence of " ++ toString length ++ " bytes from index " ++
        toString place.validLength
    | none => "incomplete utf-8 byte sequence from index " ++ toString place.validLength

end IoFault

/-- How far a conversation with the server has come. -/
inductive Phase where
  | idle
  | connecting
  | awaitGreeting
  | loggingIn
  | awaitVerification
  | sending
  | closed
  deriving DecidableEq, Repr

def Phase.name : Phase → String
  | idle => "Idle"
  | connecting => "Connecting"
  | awaitGreeting => "AwaitGreeting"
  | loggingIn => "LoggingIn"
  | awaitVerification => "AwaitVerification"
  | sending => "Sending"
  | closed => "Closed"

inductive Activity where
  | dialing
  | readingGreeting
  | sendingLogin
  | readingReply
  | sendingReport
  deriving DecidableEq, Repr

def Activity.text : Activity → String
  | dialing => "dialing server"
  | readingGreeting => "reading greeting"
  | sendingLogin => "sending login"
  | readingReply => "reading login reply"
  | sendingReport => "sending report"

inductive Violation where
  | notConnected (activity : Activity)
  | wrongPhase (actual expected : Phase)
  | badGreeting (line : String)
  | badReply (line : String)
  | notVerified (line : String)
  deriving DecidableEq, Repr

def Violation.text : Violation → String
  | notConnected activity => activity.text ++ ": not connected"
  | wrongPhase actual expected => "session is " ++ actual.name ++ ", expected " ++ expected.name
  | badGreeting line => "bad greeting: " ++ Text.quoted (Text.trimEnd line)
  | badReply line => "bad login reply: " ++ Text.quoted (Text.trimEnd line)
  | notVerified line => "login not verified: " ++ Text.quoted (Text.trimEnd line)

inductive SettingsFault where
  | callsignRequired (station : String)
  | locationRequired (station : String)
  | passcodeNotNumber (station passcode : String)
  | serverRequired
  | stationsRequired
  deriving DecidableEq, Repr

def SettingsFault.text : SettingsFault → String
  | callsignRequired station => "station " ++ Text.quoted station ++ ": an APRS callsign is required"
  | locationRequired station =>
    "station " ++ Text.quoted station ++ ": a latitude and longitude are required for APRS"
  | passcodeNotNumber station passcode =>
    "station " ++ Text.quoted station ++ ": APRS-IS passcode " ++ Text.quoted passcode ++
      " is not a number"
  | serverRequired => "an APRS-IS server (host:port) is required"
  | stationsRequired =>
    "at least one station must have APRS enabled, with a callsign and location"

inductive ReportError where
  | configuration (fault : SettingsFault)
  | connection (activity : Activity) (fault : IoFault)
  | protocolViolation (violation : Violation)
  | encodingRange (value : UInt16)
  deriving DecidableEq, Repr

def ReportError.message : ReportError → String
  | configuration fault => "configuration error: " ++ fault.text
  | connection activity fault =>
    "connection error (" ++ activity.text ++ "): " ++ fault.message
  | protocolViolation violation => "protocol violation: " ++ violation.text
  | encodingRange value =>
    "cannot encode telemetry value " ++ toString value.toNat ++ " (maximum is 8280)"

/-- An error that an operation answers with. -/
inductive Failure where
  | report (error : ReportError)
  | io (fault : IoFault)
  | timestampOutOfRange (timestamp : Instant)
  | alreadyRunning
  /-- An error of a part outside this library, in its own words. -/
  | external (text : String)
  deriving DecidableEq

def Failure.message : Failure → String
  | report error => error.message
  | io fault => fault.message
  | timestampOutOfRange timestamp =>
    "Reading timestamp " ++ timestamp.toReadable ++ " is out of range"
  | alreadyRunning => "APRS backend is already running"
  | external text => text

/-- Why an operation has no answer: it failed, or it crashed and took its task with it. -/
inductive Setback where
  | failure (cause : Failure)
  | crash
  deriving DecidableEq

abbrev Attempt := Except Setback

/-- The value, or a crash where there is none. -/
def orCrash {m : Type → Type} [Monad m] [MonadExcept Setback m] {α : Type} : Option α → m α
  | some value => pure value
  | none => throw .crash

end WeatherRelay
