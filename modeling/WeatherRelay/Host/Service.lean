import WeatherRelay.Host.Clock
import WeatherRelay.Host.Network
import WeatherRelay.Relay
import WeatherRelay.Shutdown

/-! The relay as a service: it takes in readings, reports them and tests its login until it is
stopped.
-/

set_option autoImplicit false

namespace WeatherRelay.Host

def pathIn (directory name : String) : String :=
  if directory = "" || directory.endsWith "/" then directory ++ name else directory ++ "/" ++ name

def eventLine (clock : Instant) (event : Event) : String :=
  clock.toReadable ++ " " ++ event.level.name ++ " " ++ event.message ++
    String.join (event.fields.map fun (key, value) => " " ++ key ++ "=" ++ value)

open Shutdown (HandleId SignalId)

/-- What the tasks of a service share. -/
structure Service where
  directory : String
  relay : IO.Ref Relay
  /-- The signal that stops the service, and who has yet to finish. -/
  shutdown : IO.Ref Shutdown.Tree
  signal : SignalId

namespace Service

def start (directory : String) (relay : Relay) : IO Service := do
  let (signal, tree) := Shutdown.Tree.make {}
  return { directory, relay := ← IO.mkRef relay, shutdown := ← IO.mkRef tree, signal }

/-- Take a handle, which delays the end of the service for as long as it is held. -/
def handle (service : Service) : IO HandleId := do
  let made ← service.shutdown.modifyGet fun tree =>
    match tree.makeHandle service.signal with
    | .ok (handle, tree) => (some handle, tree)
    | .error _ => (none, tree)
  match made with
  | some handle => return handle
  | none => throw (.userError "the shutdown is being completed")

def isStopping (service : Service) (handle : HandleId) : IO Bool :=
  return (← service.shutdown.get).waitIsOver handle

def stop (service : Service) (handle : HandleId) : IO Unit :=
  service.shutdown.modify fun tree => tree.triggerHandle handle

/-- Run a task that holds a handle until it ends. -/
def spawn (service : Service) (act : HandleId → IO Unit) : IO (Task (Except IO.Error Unit)) := do
  let handle ← service.handle
  IO.asTask (do
    try act handle
    finally service.shutdown.modify fun tree => tree.releaseHandle handle) .dedicated

/-- Wait until nobody holds a handle any more. -/
def complete (service : Service) : IO Unit := do
  repeat
    if ← service.shutdown.modifyGet fun tree => tree.complete service.signal then break
    IO.sleep 20

def logFile (service : Service) : String := pathIn service.directory (software ++ ".log")

def log (service : Service) (event : Event) : IO Unit := do
  let line := eventLine (← now) event ++ "\n"
  IO.print line
  (← IO.getStdout).flush
  let file ← IO.FS.Handle.mk service.logFile .append
  file.putStr line

def inform (service : Service) (message : String) (fields : List (String × String)) : IO Unit :=
  service.log ⟨.info, message, fields⟩

/-- Wait for a time on the steady clock. The flag tells whether the service still runs. -/
def runsUntil (service : Service) (handle : HandleId) (time : Nat) : IO Bool := do
  repeat
    if ← service.isStopping handle then return false
    let present ← IO.monoMsNow
    if time ≤ present then return true
    IO.sleep (min 20 (time - present)).toUInt32
  return false

/-- Act whenever a timer fires that is started now. -/
def whenever (service : Service) (handle : HandleId) (start : Nat → Attempt Timer)
    (act : IO Unit) : IO Unit := do
  match start ((← IO.monoMsNow) / 1000) with
  | .error _ => service.log ⟨.error, "Timer cannot be started", []⟩
  | .ok timer =>
    let mut due ← deadlineIn timer.period
    while ← service.runsUntil handle due do
      due ← deadlineIn timer.period
      act

/-! ### Reporting -/

def report (service : Service) (settings : ReportSettings) (station : Station) : IO Unit := do
  let relay ← service.relay.get
  let clock ← wallClock
  let talk (server : Server) : Except ReportError Unit × Session :=
    match relay.report clock station server with
    | .ok ⟨result, session⟩ => (result.map fun _ => (), session)
    | .error _ => (.ok (), {})
  let server ← observe settings.server settings.transmitTimeout talk
  let fields := [("station", station.name), ("callsign", station.callsign)]
  match relay.report clock station server with
  | .ok ⟨.ok .sent, _⟩ => service.inform "Sent APRS report" fields
  | .ok ⟨.ok .noReading, _⟩ => return ()
  | .ok ⟨.error error, _⟩ =>
    service.log ⟨.error, "Failed to send APRS report: " ++ error.message, fields⟩
  | .error _ => service.log ⟨.error, "Reporting crashed", fields⟩

/-- Report once after the initial delay, and then in every interval. -/
def reportAlways (service : Service) (settings : ReportSettings) (station : Station)
    (handle : HandleId) : IO Unit := do
  if ← service.runsUntil handle (← deadlineIn settings.initialDelay) then
    service.report settings station
    service.whenever handle settings.reportTimer (service.report settings station)

/-! ### Health -/

def writeHealth (service : Service) (registry : HealthRegistry) : IO Unit := do
  match registry.file with
  | .file (some text) =>
    try IO.FS.writeFile (pathIn service.directory "health.json") text
    catch error =>
      service.log ⟨.error, "Failed to record APRS health: " ++ (faultOf error).message, []⟩
  | _ => return ()

def checkHealth (service : Service) (reporter : ReportBackend) : IO Unit := do
  let clock ← now
  let talk (server : Server) : Except ReportError Unit × Session :=
    match reporter.stations with
    | [] => (.ok (), {})
    | station :: _ => Session.perform (HealthMonitor.testLogin station server) {}
  let server ← observe reporter.settings.server reporter.settings.healthTimeout talk
  service.relay.modify fun relay => relay.checkHealth clock server
  service.writeHealth (← service.relay.get).health

def checkHealthAlways (service : Service) (reporter : ReportBackend) (handle : HandleId) :
    IO Unit := do
  service.checkHealth reporter
  service.whenever handle reporter.settings.healthTimer (service.checkHealth reporter)

/-! ### Readings -/

/-- Take in one datagram. -/
def accept (service : Service) (datagram : ByteArray) : IO Unit := do
  match Ingest.parse? datagram.toList with
  | none => service.log ⟨.warn, "reading was malformed", []⟩
  | some reading =>
    let clock ← now
    let events ← service.relay.modifyGet fun relay => relay.accept clock reading
    events.forM service.log

def ingest (service : Service) (socket : Std.Internal.UV.UDP.Socket) (handle : HandleId) :
    IO Unit := do
  let mut received ← socket.recv datagramLimit.toUInt64
  repeat
    match ← await? received (← deadlineIn 1) with
    | some (.ok (datagram, _)) =>
      service.accept datagram
      received ← socket.recv datagramLimit.toUInt64
    | some (.error fault) =>
      service.log ⟨.error, "Ingest failed: " ++ fault.message, []⟩
      service.stop handle
    | none => pure ()
    if ← service.isStopping handle then break
  socket.cancelRecv

/-! ### The whole -/

/-- Stop the service when the program is interrupted. -/
def stopOnInterrupt (service : Service) (signal : Std.Internal.UV.Signal) (handle : HandleId) :
    IO Unit := do
  let interrupt := (← signal.next).result?
  repeat
    if ← service.isStopping handle then break
    if ← IO.hasFinished interrupt then
      service.inform "shutdown triggered" []
      service.stop handle
    IO.sleep 20

def run (service : Service) (socket : Option Std.Internal.UV.UDP.Socket) : IO Unit := do
  let signal ← Std.Internal.UV.Signal.mk 2 false
  let relay ← service.relay.get
  let mut tasks := [← service.spawn (service.stopOnInterrupt signal)]
  if let some socket := socket then
    tasks := (← service.spawn (service.ingest socket)) :: tasks
  if let some reporter := relay.reporter then
    for station in reporter.stations do
      tasks := (← service.spawn (service.reportAlways reporter.settings station)) :: tasks
    tasks := (← service.spawn (service.checkHealthAlways reporter)) :: tasks
  service.inform "running -- press ctrl+c to exit" []
  service.complete
  for task in tasks do
    discard (IO.ofExcept task.get)

end Service

end WeatherRelay.Host
