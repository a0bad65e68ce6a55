import LockGateway.Carrier
import LockGateway.Config
import LockGateway.Http
import LockGateway.Relay

/-! Connections. A connection numbers its requests from one on, and its wallet's
flavor is settled when it is opened. -/

namespace LockGateway

/-- A wallet in the same process. -/
structure Wallet (m : Type → Type) where
  request : Rpc.Request → m Reply
  schedule : Schedule
  isMetamask : Bool
  /-- Asks the user to let the gateway in. -/
  enable : m (Except GatewayError Unit)

namespace Wallet

/-- A wallet that replies at once, says nothing of itself and lets everybody in. -/
def plain [Monad m] (request : Rpc.Request → m Reply) : Wallet m where
  request
  schedule := .inTurn
  isMetamask := false
  enable := pure (.ok ())

def flavor (wallet : Wallet m) : WalletFlavor :=
  if wallet.isMetamask then .metaMask else .generic

end Wallet

/-- Where to connect to. -/
inductive Endpoint (m : Type → Type) where
  | direct (wallet : Wallet m)
  /-- The local node; the settings tell its URL. -/
  | localRpc (server : HttpServer m) (schedule : Schedule)
  /-- The channel to the peer holds one request at least. -/
  | relay (peer : RelayPeer m) (capacity : Nat) (schedule : Schedule)

def Endpoint.name : Endpoint m → String
  | direct _ => "Direct"
  | localRpc _ _ => "LocalRpc"
  | relay _ _ _ => "Relay"

/-- How the requests of a connection travel. -/
inductive Backend (m : Type → Type) where
  | direct (wallet : Wallet m)
  | http (url : String) (server : HttpServer m) (schedule : Schedule)
  | relay (peer : RelayPeer m) (capacity : Nat) (schedule : Schedule)

namespace Backend

variable {m : Type → Type} [Monad m]

def name : Backend m → String
  | direct _ => "direct"
  | http _ _ _ => "http"
  | relay _ _ _ => "relay"

/-- A wallet in the same process gets a request as soon as it is made, a server some
time later, and the peer of a relay once there is a place in the channel. -/
def carrier : Backend m → Carrier m
  | direct wallet =>
      { refusal? := fun _ => none
        admits := fun _ => true
        deliver := wallet.request
        schedule := wallet.schedule }
  | http url server schedule =>
      { refusal? := fun _ => none
        admits := fun _ => false
        deliver := server.post url
        schedule }
  | relay peer capacity schedule =>
      { refusal? := RelayPeer.refusal?
        admits := fun onTheWay => onTheWay < max capacity 1
        deliver := peer.deliver
        schedule }

def caller (backend : Backend m) : Caller (StateT (Traffic m) m) := backend.carrier.caller

end Backend

structure Connection (m : Type → Type) where
  backend : Backend m
  flavor : WalletFlavor
  /-- Tells the connections of a gateway apart. -/
  generation : UInt64
  /-- The number of requests made so far, sent or not. -/
  numbered : Nat

namespace Connection

variable {m : Type → Type} [Monad m]

/-- The outcome of a query, and the traffic after it. What nobody waits for any more may
be handled meanwhile. -/
def answer (connection : Connection m) (undelivered : List (Delivery m)) (query : Query α) :
    m (Except GatewayError α × Traffic m) :=
  (query.runWith connection.backend.caller).run (.start connection.numbered undelivered)

/-- The connection after some traffic. -/
def after (connection : Connection m) (traffic : Traffic m) : Connection m :=
  { connection with numbered := traffic.numbered }

/-! ## Opening -/

def openDirect (wallet : Wallet m) (generation : UInt64) : m (Connection m × WalletInfo) := do
  let opened (flavor : WalletFlavor) : Connection m :=
    { backend := .direct wallet, flavor, generation, numbered := 0 }
  match ← wallet.enable with
  | .ok () => return (opened wallet.flavor, .available wallet.flavor)
  | .error _ => return (opened .generic, .declined)

def openHttp (config : Config) (server : HttpServer m) (schedule : Schedule)
    (generation : UInt64) : Except GatewayError (Connection m × WalletInfo) := do
  let url ← config.localRpcUrl
  let opened : Connection m :=
    { backend := .http url server schedule, flavor := .generic, generation, numbered := 0 }
  return (opened, .available .generic)

/-- The host is asked what wallet it has. -/
def openRelay (peer : RelayPeer m) (capacity : Nat) (schedule : Schedule) (generation : UInt64)
    (undelivered : List (Delivery m)) :
    m (Except GatewayError (Connection m × WalletInfo) × Traffic m) := do
  let fresh : Connection m :=
    { backend := .relay peer capacity schedule, flavor := .generic, generation, numbered := 0 }
  let (outcome, traffic) ← fresh.answer undelivered .walletInfo
  let opened := outcome.map fun info => ({ fresh.after traffic with flavor := info.flavor }, info)
  return (opened, traffic)

/-- Opens a connection and tells what wallet is behind it, with the traffic on the
way. -/
def «open» (endpoint : Endpoint m) (config : Config) (generation : UInt64)
    (undelivered : List (Delivery m)) :
    m (Except GatewayError (Connection m × WalletInfo) × Traffic m) :=
  match endpoint with
  | .direct wallet => do
      return (.ok (← openDirect wallet generation), .start 0 undelivered)
  | .localRpc server schedule =>
      pure (openHttp config server schedule generation, .start 0 undelivered)
  | .relay peer capacity schedule => openRelay peer capacity schedule generation undelivered

end Connection

end LockGateway
