import LockGateway.CommandLine
import LockGateway.Http.Wire
import Std.Async.DNS
import Std.Async.TCP
import Std.Async.Timer

/-! The program: the settings come from the environment, the locks from the
arguments, and requests are posted over TCP. -/

namespace LockGateway

open Std.Async Std.Net

def socketAddress (address : IPAddr) (portNumber : UInt16) : SocketAddress :=
  match address with
  | .v4 address => .v4 ⟨address, portNumber⟩
  | .v6 address => .v6 ⟨address, portNumber⟩

/-- Everything that comes until the other side closes. -/
partial def receiveAll (socket : TCP.Socket.Client) (received : ByteArray) : Async ByteArray := do
  match ← socket.recv? 65536 with
  | none => return received
  | some bytes => receiveAll socket (received ++ bytes)

def exchange (location : Http.Location) (body : String) : Async ByteArray := do
  let addresses ← DNS.getAddrInfo location.hostName "" none
  match addresses[0]? with
  | none => return .empty
  | some address =>
      let socket ← TCP.Socket.Client.mk
      socket.connect (socketAddress address location.portNumber)
      socket.send (Http.requestText location body).toUTF8
      receiveAll socket .empty

def exchangeWithin (milliseconds : UInt64) (location : Http.Location) (body : String) :
    Async ByteArray :=
  Async.race (exchange location body) do
    sleep (Std.Time.Millisecond.Offset.ofNat milliseconds.toNat)
    return .empty

/-- Posts requests to the endpoint that is configured. Whatever goes wrong on the
way, no response came. -/
def networkServer (config : Config) : HttpServer IO := fun url request => do
  match Http.Location.ofUrl? url with
  | none => return .unreachable
  | some location =>
      let body := (Json.object request.members).text
      try
        let received ← (exchangeWithin config.rpcTimeout location body).block
        return Http.readExchange received.toList
      catch _ => return .unreachable

def environmentNames : List String :=
  ["UNLOCK_RUNTIME_PROFILE", "UNLOCK_PROVIDER_URL", "UNLOCK_CONTRACT_ADDRESS",
   "UNLOCK_RPC_TIMEOUT_MS", "UNLOCK_EVENT_CAPACITY", "UNLOCK_REQUIRE_CHAIN_ID"]

def readEnvironment : IO (List (String × String)) :=
  environmentNames.filterMapM fun name => do
    return (← IO.getEnv name).map (name, ·)

end LockGateway

open LockGateway

def main (arguments : List String) : IO UInt32 := do
  let environment ← readEnvironment
  let config := Config.ofEnvironment fun name => environment.lookup name
  let report ← CommandLine.run config (networkServer config) .inTurn arguments
  report.lines.forM IO.println
  match report.failure with
  | some failure => IO.eprintln failure.text
  | none => pure ()
  return report.exitCode
