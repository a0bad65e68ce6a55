import LockGateway.Gateway.Session

/-! Connecting a gateway, and what it asks the node about itself: the network,
the account, and whether the lock factory is deployed. -/

namespace LockGateway

namespace Query

/-- The number of the network that the node is on. -/
def network : Query UInt64 :=
  ask ((Question.quantity "net_version" []).fitting "net_version")

/-- The first account that the node lists, if that is a text. -/
def firstAccount : Query (Option Address) := do
  let accounts ← send "eth_accounts" (.list [])
  match (accounts.list?.bind List.head?).bind Json.string? with
  | none => return none
  | some text =>
      let account ← ofExcept <|
        (Address.ofText text).mapError (.invalidResponse <| .malformedAccount text ·)
      return some account

end Query

/-- Whether an answer to the question for code says that something is deployed.
Some nodes write no code as the number zero. -/
def isDeployedCode (code : Json) : Bool := isContractCode code && code.string? != some "0x0"

/-- Refuses networks other than the required one. -/
def Config.checkNetwork (config : Config) (network : UInt64) : Except GatewayError Unit :=
  match config.requiredChainId with
  | none => .ok ()
  | some required =>
      if network = required then .ok () else .error (.validation (.wrongNetwork network required))

namespace Gateway

variable {m : Type → Type} [Monad m]

/-- Opens the connection of a disconnected gateway. -/
def openConnection (endpoint : Endpoint m) : GatewayM m WalletInfo := do
  let gateway ← current
  let (opened, traffic) ←
    (Connection.open endpoint gateway.config gateway.generation gateway.undelivered : m _)
  modify (·.record gateway.generation traffic)
  let (connection, walletInfo) ← require opened
  update ({ · with connection := some connection, walletInfo })
  emit (.walletInfo walletInfo)
  return walletInfo

/-- Learns the network. If it is not the required one, the listeners are told
of the error too. -/
def joinNetwork : GatewayM m Unit := do
  let network ← ask .network
  match (← current).config.checkNetwork network with
  | .error error =>
      emit (.error error)
      throw error
  | .ok () =>
      update ({ · with networkId := some network })
      emit (.networkChanged network)

/-- Connects to an endpoint, and drops the connection that there was. Without a
wallet there is nothing more to learn. -/
def connect (endpoint : Endpoint m) : GatewayM m WalletInfo := do
  update (·.disconnected)
  let walletInfo ← openConnection endpoint
  unless walletInfo.noWallet do joinNetwork
  return walletInfo

/-- Replaces the connection. Requests are numbered from one again. -/
def reconnect (endpoint : Endpoint m) : GatewayM m WalletInfo := connect endpoint

/-- Loads the first account of the node. If there is none, nothing changes. -/
def getAccount : GatewayM m (Option Address) := do
  match ← ask .firstAccount with
  | none => return none
  | some account =>
      update ({ · with account := some account, ready := true })
      emit (.accountChanged account)
      emit .ready
      return some account

def isUnlockContractDeployed : GatewayM m Bool := do
  let code ← ask (.code (← current).config.unlockAddress)
  return isDeployedCode code

end Gateway

end LockGateway
