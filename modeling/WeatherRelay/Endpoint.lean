import WeatherRelay.Configuration.SocketAddress
import WeatherRelay.Session

/-! Where a server is to be dialed: at a literal address, or at a port of a host that has a name. -/

set_option autoImplicit false

namespace WeatherRelay

inductive Endpoint where
  | literal (address : SocketAddress)
  | named (host : String) (port : Nat)
  deriving DecidableEq, Repr

namespace Endpoint

/-- The text before the last colon and the text behind it. -/
def splitPort? (text : String) : Option (String × String) :=
  let reversed := text.toList.reverse
  match reversed.dropWhile (· != ':') with
  | [] => none
  | _ :: host =>
    some (String.ofList host.reverse, String.ofList (reversed.takeWhile (· != ':')).reverse)

/-- The endpoint that a text spells. What is no literal address is a host and a port. -/
def ofText (text : String) : Except IoFault Endpoint :=
  match SocketAddress.ofText? text with
  | some address => .ok (.literal address)
  | none =>
    match splitPort? text with
    | none => .error .addressMalformed
    | some (host, port) =>
      match Decimal.naturalOf? 65535 port with
      | none => .error .portMalformed
      | some port => .ok (.named host port)

end Endpoint

/-- A server as it is met behind a text for its endpoint: the dial fails where the text spells
none. -/
def Server.behind (server : Server) (text : String) : Server :=
  match Endpoint.ofText text with
  | .ok _ => server
  | .error fault => { server with dialFault := some fault }

end WeatherRelay
