import LockGateway.Connection
import LockGateway.Event
import LockGateway.VersionRegistry

/-! The state of a gateway, and the actions on it. An action asks the node
behind the current connection and changes the state; which requests it sent and
which events it told of is part of its result. -/

namespace LockGateway

structure Gateway (m : Type → Type) where
  config : Config
  connection : Option (Connection m)
  account : Option Address
  networkId : Option UInt64
  walletInfo : WalletInfo
  /-- Counts the attempts to connect. -/
  generation : UInt64
  /-- Whether there is an account to act for. -/
  ready : Bool
  /-- What is known of the contracts on the current connection. -/
  versions : VersionRegistry
  /-- Requests on their way that nobody waits for any more. They may still be handled,
  also after the connection was replaced. -/
  undelivered : List (Delivery m)

namespace Gateway

def new (config : Config) : Gateway m where
  config
  connection := none
  account := none
  networkId := none
  walletInfo := .unavailable
  generation := 0
  ready := false
  versions := .empty
  undelivered := []

/-- The gateway before a new attempt to connect. What was learned on the last
connection is forgotten; the last wallet stays known until there is a new one. -/
def disconnected (gateway : Gateway m) : Gateway m :=
  { gateway with
    connection := none
    account := none
    networkId := none
    ready := false
    versions := .empty
    generation := gateway.generation + 1 }

/-- The connection, which is of use only if there is a wallet behind it. -/
def wallet (gateway : Gateway m) : Except GatewayError (Connection m) :=
  match gateway.connection with
  | none => .error .notConnected
  | some connection =>
      if gateway.walletInfo.noWallet then .error .noWalletAvailable else .ok connection

/-- The account to act for. -/
def sender (gateway : Gateway m) : Except GatewayError Address :=
  match gateway.account with
  | none => .error (.validation .noAccount)
  | some account => .ok account

end Gateway

/-- A request and the generation of the connection that it was sent over. -/
structure IssuedRequest where
  generation : UInt64
  request : Rpc.Request
  deriving Repr

/-- A gateway in the middle of an action. -/
structure Session (m : Type → Type) where
  gateway : Gateway m
  /-- The requests sent in the action so far, in that order. -/
  issued : List IssuedRequest
  /-- The events told of in the action so far. -/
  events : List Event

/-- An action that may fail. It keeps what it did before it failed. -/
abbrev GatewayM (m : Type → Type) := ExceptT GatewayError (StateT (Session m) m)

namespace Session

def start (gateway : Gateway m) : Session m := { gateway, issued := [], events := [] }

/-- Takes over what a connection of some generation has done. -/
def record (session : Session m) (generation : UInt64) (traffic : Traffic m) : Session m :=
  { session with
    gateway := { session.gateway with undelivered := traffic.undelivered }
    issued := session.issued ++ traffic.sent.map fun request => ⟨generation, request⟩ }

def setConnection (session : Session m) (connection : Connection m) : Session m :=
  { session with gateway := { session.gateway with connection := some connection } }

end Session

namespace Gateway

variable {m : Type → Type} [Monad m]

def current : GatewayM m (Gateway m) := return (← get).gateway

def update (change : Gateway m → Gateway m) : GatewayM m Unit :=
  modify fun session => { session with gateway := change session.gateway }

def emit (event : Event) : GatewayM m Unit :=
  modify fun session => { session with events := session.events ++ [event] }

def emitAll (events : List Event) : GatewayM m Unit :=
  modify fun session => { session with events := session.events ++ events }

/-- Goes on with a value, or fails as it failed. -/
def require (outcome : Except GatewayError α) : GatewayM m α := ExceptT.mk (pure outcome)

/-- Puts a query to the node behind the connection. -/
def inquire (query : Query α) : GatewayM m (Except GatewayError α) := do
  let gateway ← current
  let connection ← require gateway.wallet
  let (outcome, traffic) ← connection.answer gateway.undelivered query
  modify fun session =>
    (session.setConnection (connection.after traffic)).record connection.generation traffic
  return outcome

/-- Puts a query whose failure is that of the action. -/
def ask (query : Query α) : GatewayM m α := do
  require (← inquire query)

/-- The version of a contract. What was learned of it is kept whatever becomes
of the action. -/
def resolve (kind : ContractKind) (address : Address) : GatewayM m ContractVersion := do
  let (version, versions) ← ask ((← current).versions.resolve kind address)
  update ({ · with versions })
  return version

end Gateway

end LockGateway
