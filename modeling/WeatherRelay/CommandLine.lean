import WeatherRelay.Station

/-! The command line. -/

set_option autoImplicit false

namespace WeatherRelay.CommandLine

inductive Command where
  | run (configuration : String)
  | check (configuration : String)
  | passcode (callsign : String)
  deriving DecidableEq, Repr

inductive Topic where
  | program
  | run
  | check
  | passcode
  | help
  deriving DecidableEq, Repr

inductive Invocation where
  | command (command : Command)
  | version
  | help (topic : Topic)
  | misuse
  deriving DecidableEq, Repr

/-- Whether an argument is an option rather than a value. A lone dash is a value. -/
def isOption (argument : String) : Bool := argument.startsWith "-" && argument != "-"

/-- The configuration option: an argument that holds its value, or one that is followed by it. -/
inductive ConfigOption where
  | attached (value : String)
  | separate
  deriving DecidableEq, Repr

def behind? (start argument : String) : Option String :=
  if argument.startsWith start then some (String.ofList (argument.toList.drop start.length)) else none

def configOption? (argument : String) : Option ConfigOption :=
  if argument = "-c" || argument = "--config" then some .separate
  else
    match behind? "--config=" argument with
    | some value => some (.attached value)
    | none =>
      match behind? "-c=" argument with
      | some value => some (.attached value)
      | none => (behind? "-c" argument).map .attached

def canTake (found : Option String) (value : String) : Bool := value != "" && found.isNone

def parseConfigured (topic : Topic) (command : String → Command) (found : Option String) :
    List String → Invocation
  | [] =>
    match found with
    | none => .misuse
    | some path => .command (command path)
  | ["--"] => parseConfigured topic command found []
  | argument :: rest =>
    if argument = "--help" || argument.startsWith "-h" then .help topic
    else
      match configOption? argument, rest with
      | some (.attached value), rest =>
        if canTake found value then parseConfigured topic command (some value) rest else .misuse
      | some .separate, value :: rest =>
        if canTake found value && !isOption value then
          parseConfigured topic command (some value) rest
        else .misuse
      | _, _ => .misuse

/-- The invocation of the passcode command, given the callsign so far. Behind two dashes all
arguments are values. -/
def parsePasscode (found : Option String) (literal : Bool) : List String → Invocation
  | [] =>
    match found with
    | none => .misuse
    | some callsign => .command (.passcode callsign)
  | argument :: rest =>
    if !literal && argument = "--" then parsePasscode found true rest
    else if !literal && isOption argument then
      if argument = "--help" || argument.startsWith "-h" then .help .passcode else .misuse
    else if found.isSome then .misuse
    else parsePasscode (some argument) literal rest

def topicOf? (name : String) : Option Topic :=
  if name = "run" then some .run
  else if name = "check" then some .check
  else if name = "passcode" then some .passcode
  else if name = "help" then some .help
  else none

def parseHelp : List String → Invocation
  | [] => .help .program
  | [name] =>
    match topicOf? name with
    | some topic => .help topic
    | none => .misuse
  | _ => .misuse

def parse : List String → Invocation
  | [] => .misuse
  | argument :: rest =>
    if argument = "--version" || argument.startsWith "-V" then .version
    else if argument = "--help" || argument.startsWith "-h" then .help .program
    else
      match topicOf? argument with
      | some .run => parseConfigured .run .run none rest
      | some .check => parseConfigured .check .check none rest
      | some .passcode => parsePasscode none false rest
      | some .help => parseHelp rest
      | _ => .misuse

def about : String := "weather station reading distribution and APRS-IS reporting"

def versionText : String := software ++ " " ++ version ++ "\n"

def configHelp : String :=
  "Options:\n  -c, --config <CONFIG>  path to the configuration file\n" ++
    "  -h, --help             Print help\n"

def helpAbout : String := "Print this message or the help of the given subcommand(s)"

def helpText : Topic → String
  | .program =>
    about ++ "\n\nUsage: " ++ software ++ " <COMMAND>\n\nCommands:\n" ++
      "  run       run the distributor, storage backends and APRS-IS reporting\n" ++
      "  check     validate a configuration file and print the APRS stations it defines\n" ++
      "  passcode  print the APRS-IS passcode for a callsign\n" ++
      "  help      " ++ helpAbout ++ "\n\n" ++
      "Options:\n  -h, --help     Print help\n  -V, --version  Print version\n"
  | .run =>
    "run the distributor, storage backends and APRS-IS reporting\n\nUsage: " ++ software ++
      " run --config <CONFIG>\n\n" ++ configHelp
  | .check =>
    "validate a configuration file and print the APRS stations it defines\n\nUsage: " ++
      software ++ " check --config <CONFIG>\n\n" ++ configHelp
  | .passcode =>
    "print the APRS-IS passcode for a callsign\n\nUsage: " ++ software ++
      " passcode <CALLSIGN>\n\nArguments:\n  <CALLSIGN>  callsign, with or without SSID\n\n" ++
      "Options:\n  -h, --help  Print help\n"
  | .help =>
    helpAbout ++ "\n\nUsage: " ++ software ++ " help [COMMAND]...\n\nArguments:\n" ++
      "  [COMMAND]...  Print help for the subcommand(s)\n"

end WeatherRelay.CommandLine
