import WeatherRelay.CommandLine
import WeatherRelay.Relay

/-! What the commands of the program do, apart from the input and output they do it with. -/

set_option autoImplicit false

namespace WeatherRelay.Program

/-- How a command ends: its exit status and what it prints. -/
structure Ending where
  status : Nat
  output : String := ""
  errors : String := ""
  deriving DecidableEq, Repr

def Ending.success (output : String) : Ending := { status := 0, output }

def Ending.misuse : Ending := { status := 2, errors := CommandLine.helpText .program }

def Ending.failure (error : CommandError) : Ending :=
  { status := 1, errors := "Error: " ++ error.text ++ "\n" }

def Ending.ofResult : Except CommandError Unit → Ending
  | .ok () => .success ""
  | .error error => .failure error

def passcodeOutput (callsign : String) : String :=
  toString (Passcode.ofCallsign callsign).toNat ++ "\n"

/-- What a command line comes to: an ending at once, or a command that needs a configuration. -/
inductive Task where
  | done (ending : Ending)
  | run (configuration : String)
  | check (configuration : String)
  deriving DecidableEq, Repr

def taskOf (arguments : List String) : Task :=
  match CommandLine.parse arguments with
  | .misuse => .done .misuse
  | .version => .done (.success CommandLine.versionText)
  | .help topic => .done (.success (CommandLine.helpText topic))
  | .command (.passcode callsign) => .done (.success (passcodeOutput callsign))
  | .command (.run path) => .run path
  | .command (.check path) => .check path

/-- The end of a check: the record of the login test, if it came to that. -/
structure CheckEnding where
  record : Option HealthRecord
  ending : Ending

/-- Check a configuration against the server that it names. -/
def check (configuration : Configuration) (clock : Instant) (server : Server) : CheckEnding :=
  match CheckPlan.ofConfiguration configuration with
  | .error error => ⟨none, .failure error⟩
  | .ok plan =>
    let (record, result) := plan.perform clock server
    ⟨some record, .ofResult result⟩

/-- The end of a run: what was logged, and the health file's records. -/
structure RunEnding where
  events : List Event := []
  health : List (String × HealthRecord) := []
  ending : Ending

/-- Run the relay on some datagrams until it is stopped. `directoryFault` is what making the run
directory fails with, and `listenFault` what listening for readings fails with; by then the login is
tested. -/
def run (configuration : Configuration) (directoryFault listenFault : Option IoFault)
    (clock : Instant) (server : Server) (datagrams : List Text.Utf8.Bytes) : RunEnding :=
  match directoryFault with
  | some fault => { ending := .failure (.io fault) }
  | none =>
    match Relay.ofConfiguration configuration (.file none) with
    | .error error => { ending := .failure error }
    | .ok relay =>
      let relay := relay.checkHealth clock server
      match listenFault with
      | some fault => { health := relay.health.snapshot, ending := .failure (.io fault) }
      | none =>
        let (events, relay) := relay.acceptAll clock (Ingest.readings datagrams)
        { events, health := relay.health.snapshot, ending := .success "" }

end WeatherRelay.Program
