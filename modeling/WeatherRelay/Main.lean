import WeatherRelay.Host.Service
import WeatherRelay.Program

/-! The program. -/

set_option autoImplicit false

namespace WeatherRelay.Host

/-- Print what an ending has to say. Its status is that of the program. -/
def conclude (ending : Program.Ending) : IO UInt32 := do
  IO.print ending.output
  IO.eprint ending.errors
  return ending.status.toUInt32

def concludeWith (error : CommandError) : IO UInt32 := conclude (.failure error)

/-- Whether a fault of reading a file says that there is no such file. -/
def saysMissing : IoFault → Bool
  | .system number => number = 2 || number = 20 || number = 36 || number = 40
  | _ => false

def readConfiguration (path : String) : IO (Except CommandError Configuration) := do
  try return Configuration.ofFile (← IO.FS.readBinFile path).toList
  catch error =>
    let fault := faultOf error
    return .error (if saysMissing fault then .noConfiguration path else .io fault)

def check (path : String) : IO UInt32 := do
  match ← readConfiguration path with
  | .error error => concludeWith error
  | .ok configuration =>
    match CheckPlan.ofConfiguration configuration with
    | .error error => concludeWith error
    | .ok plan =>
      plan.stations.forM fun station => IO.println (CheckPlan.stationLine station)
      let clock ← now
      let talk (server : Server) : Except ReportError Unit × Session :=
        match plan.stations with
        | [] => (.ok (), {})
        | station :: _ => Session.perform (HealthMonitor.testLogin station server) {}
      let server ← observe plan.settings.server plan.settings.healthTimeout talk
      let ending := Program.check configuration clock server
      ending.record.forM fun record => IO.println (record.toPrettyJson "")
      conclude ending.ending

def attempt (action : IO Unit) : IO (Option IoFault) := do
  try
    action
    return none
  catch error => return some (faultOf error)

/-- Make a directory, and those that it is in. What is there already is no fault, unless it is
something else than a directory. -/
def makeDirectory (path : String) : IO (Option IoFault) := do
  if path = "" then return none
  match ← attempt (IO.FS.createDir path) with
  | none => return none
  | some fault =>
    if fault = .notADirectory then return some fault else attempt (IO.FS.createDirAll path)

def serve (configuration : Configuration) (relay : Relay) : IO UInt32 := do
  let service ← Service.start configuration.runDirectory relay
  let socket ←
    try Except.ok <$> configuration.listen.mapM listen
    catch error => pure (.error (faultOf error))
  match socket with
  | .error fault => concludeWith (.io fault)
  | .ok socket =>
    service.run socket
    conclude (.success "")

def run (path : String) : IO UInt32 := do
  match ← readConfiguration path with
  | .error error => concludeWith error
  | .ok configuration =>
    match ← makeDirectory configuration.runDirectory with
    | some fault => concludeWith (.io fault)
    | none =>
      match Relay.ofConfiguration configuration (.file none) with
      | .error error => concludeWith error
      | .ok relay => serve configuration relay

end WeatherRelay.Host

def main (args : List String) : IO UInt32 := do
  match WeatherRelay.Program.taskOf args with
  | .done ending => WeatherRelay.Host.conclude ending
  | .check path => WeatherRelay.Host.check path
  | .run path => WeatherRelay.Host.run path
