import Std.Internal.UV
import WeatherRelay.Endpoint

/-! Conversations over the network of the host.

A server is observed piece by piece. The conversation is run on the pieces so far; what it has
written goes out, and where it waits for more the next piece is read. What comes of this is the
script of all that the server did, on which the conversation can be run once more.
-/

set_option autoImplicit false

namespace WeatherRelay.Host

open Std.Internal.UV
open Text.Utf8 (Bytes)

def faultNumber? : IO.Error → Option Nat
  | .alreadyExists _ number _ | .otherError number _ | .resourceBusy number _
  | .resourceVanished number _ | .unsupportedOperation number _ | .hardwareFault number _
  | .unsatisfiedConstraints number _ | .illegalOperation number _ | .protocolError number _
  | .timeExpired number _ | .interrupted _ number _ | .noFileOrDirectory _ number _
  | .invalidArgument _ number _ | .permissionDenied _ number _ | .resourceExhausted _ number _
  | .inappropriateType _ number _ | .noSuchThing _ number _ => some number.toNat
  | .unexpectedEof | .userError _ => none

/-- Faults of the system are numbered from 1, or down from -1; name resolution has numbers of its
own. -/
def faultOf (error : IO.Error) : IoFault :=
  match faultNumber? error with
  | none => .told (toString error)
  | some number =>
    let number := if number < twoTo 31 then number else twoTo 32 - number
    if 0 < number && number < 200 then .system number else .told (toString error)

/-- Milliseconds on the steady clock after so many seconds from now. -/
def deadlineIn (seconds : Nat) : IO Nat := do
  return (← IO.monoMsNow) + 1000 * seconds

/-- What a promise comes to by a time on the steady clock; none where it does not come in time. -/
def await? {α : Type} (promise : IO.Promise (Except IO.Error α)) (limit : Nat) :
    IO (Option (Except IoFault α)) := do
  let task := promise.result?
  let mut waits := true
  while waits do
    if ← IO.hasFinished task then waits := false
    else if limit ≤ (← IO.monoMsNow) then return none
    else IO.sleep 2
  match task.get with
  | some (.ok value) => return some (.ok value)
  | some (.error error) => return some (.error (faultOf error))
  | none => return some (.error (.told "operation was dropped"))

def await {α : Type} (promise : IO.Promise (Except IO.Error α)) (limit : Nat) :
    IO (Except IoFault α) := do
  return (← await? promise limit).getD (.error .deadline)

/-! ### Addresses -/

def hostAddress : SocketAddress → Std.Net.SocketAddress
  | .v4 octets port =>
    .v4 ⟨⟨Vector.ofFn fun i => UInt8.ofNat (octets.getD i.val 0)⟩, UInt16.ofNat port⟩
  | .v6 groups _ port =>
    .v6 ⟨⟨Vector.ofFn fun i => UInt16.ofNat (groups.getD i.val 0)⟩, UInt16.ofNat port⟩

def addressAt (port : Nat) : Std.Net.IPAddr → Std.Net.SocketAddress
  | .v4 address => .v4 ⟨address, UInt16.ofNat port⟩
  | .v6 address => .v6 ⟨address, UInt16.ofNat port⟩

/-- The addresses of an endpoint, in the order in which they are to be tried. -/
def resolve (endpoint : Endpoint) (limit : Nat) :
    IO (Except IoFault (List Std.Net.SocketAddress)) := do
  match endpoint with
  | .literal address => return .ok [hostAddress address]
  | .named host port =>
    match ← await (← DNS.getAddrInfo host (toString port) 0) limit with
    | .error .deadline => return .error .deadline
    | .error fault => return .error (.told ("failed to lookup address information: " ++ fault.message))
    | .ok addresses => return .ok (addresses.toList.map (addressAt port))

/-! ### Dialing, writing, reading -/

/-- A connection to the first of an endpoint's addresses that takes one. -/
def dial (endpoint : Endpoint) (limit : Nat) : IO (Except IoFault TCP.Socket) := do
  match ← resolve endpoint limit with
  | .error fault => return .error fault
  | .ok addresses =>
    let mut outcome := .error (.told "could not resolve to any address")
    for address in addresses do
      let socket ← TCP.Socket.new
      match ← await (← socket.connect address) limit with
      | .ok () => return .ok socket
      | .error fault => outcome := .error fault
    return outcome

def send (socket : TCP.Socket) (bytes : Bytes) (limit : Nat) : IO (Except IoFault Unit) := do
  await (← socket.send #[ByteArray.mk bytes.toArray]) limit

def receive (socket : TCP.Socket) (limit : Nat) : IO Arrival := do
  match ← await? (← socket.recv? 4096) limit with
  | some (.ok (some chunk)) => return .bytes chunk.toList
  | some (.ok none) => return .endOfStream
  | some (.error fault) => return .failure fault
  | none =>
    socket.cancelRecv
    return .silence

/-! ### Conversations -/

/-- A conversation as a function of the server it is held with. -/
abbrev Talk := Server → Except ReportError Unit × Session

/-- What a conversation waits for, where it has met all that arrived and nothing failed. -/
def awaited? (server : Server) (outcome : Except ReportError Unit) : Option Activity :=
  match outcome with
  | .error (.connection activity .deadline) =>
    if server.arrivals.contains .silence || !server.writes.isEmpty then none else some activity
  | _ => none

/-- Hold a conversation over a connection, with so many seconds for every wait in it. -/
def observeConnected (socket : TCP.Socket) (seconds : Nat) (talk : Talk) : IO Server := do
  let mut server : Server := {}
  let mut written := 0
  let mut completed := 0
  let mut waiting : Option (Activity × Nat) := none
  repeat
    let (outcome, session) := talk server
    let fresh := session.sent.drop written
    if !fresh.isEmpty then
      match ← send socket fresh (← deadlineIn seconds) with
      | .ok () =>
        written := written + fresh.length
        completed := completed + 1
      | .error fault =>
        server := { server with writes := List.replicate completed .complete ++ [.broken 0 fault] }
        break
    match awaited? server outcome with
    | none => break
    | some activity =>
      let limit ←
        match waiting with
        | some (same, limit) => if same = activity then pure limit else deadlineIn seconds
        | none => deadlineIn seconds
      waiting := some (activity, limit)
      server := { server with arrivals := server.arrivals ++ [← receive socket limit] }
  discard (await (← socket.shutdown) (← deadlineIn 1))
  return server

/-- Hold a conversation with the server behind a text for its endpoint. No server is dialed that
the conversation does not dial. -/
def observe (text : String) (seconds : Nat) (talk : Talk) : IO Server := do
  match Endpoint.ofText text with
  | .error _ => return {}
  | .ok endpoint =>
    if (talk {}).2.dials = 0 then return {}
    match ← dial endpoint (← deadlineIn seconds) with
    | .error fault => return { dialFault := some fault }
    | .ok socket => observeConnected socket seconds talk

/-! ### Datagrams -/

def datagramLimit : Nat := 64 * 1024

def listen (address : SocketAddress) : IO UDP.Socket := do
  let socket ← UDP.Socket.new
  socket.bind (hostAddress address)
  return socket

end WeatherRelay.Host
