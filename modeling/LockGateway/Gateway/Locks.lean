import LockGateway.Gateway.Session
import LockGateway.Lock.Call
import LockGateway.Signing
import LockGateway.Transaction.Tracking

/-! The operations on locks, whatever their version, and signing. A call is
encoded only once the version of its contract is known, and is handed in only
once it is encoded. -/

namespace LockGateway

/-- The hash that a node answers for a transaction. Some nodes leave it empty. -/
def readTransactionHash (value : Json) : Except GatewayError Hash :=
  match value.string? with
  | none => .error (.invalidResponse .noHash)
  | some text =>
      if text = "" ∨ text = "0x" then .ok Hash.zero
      else (Hash.ofText text).mapError (.invalidResponse <| .malformedHash text ·)

/-- Hands in a call as a transaction. -/
def Query.handIn (call : ContractCall) : Query SentTransaction := do
  let answer ← send "eth_sendTransaction" (.list [call.request])
  let hash ← ofExcept (readTransactionHash answer)
  return { hash, sender := call.sender, receiver := call.receiver, data := call.data }

namespace Gateway

variable {m : Type → Type} [Monad m]

/-- Hands in a call. The listeners are told of a failure, and the caller gets the
same error. -/
def dispatch (call : ContractCall) : GatewayM m Transaction := do
  let (outcome, events) := call.kind.track (← inquire (.handIn call))
  emitAll events
  match outcome with
  | .ok transaction => return transaction
  | .error error =>
      emit (.error error)
      throw error

def createLock (parameters : CreateLockParameters) : GatewayM m Transaction := do
  let gateway ← current
  discard <| require gateway.wallet
  let sender ← require gateway.sender
  let unlock := gateway.config.unlockAddress
  let version ← resolve .unlock unlock
  dispatch (← require (version.createLock unlock sender parameters))

def purchaseKey (parameters : PurchaseKeyParameters) : GatewayM m Transaction := do
  let gateway ← current
  discard <| require gateway.wallet
  let sender ← require gateway.sender
  let version ← resolve .publicLock parameters.lock
  dispatch (← require (version.purchaseKey sender parameters))

def withdrawFromLock (parameters : WithdrawParameters) : GatewayM m Transaction := do
  let version ← resolve .publicLock parameters.lock
  dispatch (← require (version.withdrawFromLock parameters))

def partialWithdrawFromLock (parameters : WithdrawParameters) : GatewayM m Transaction := do
  let version ← resolve .publicLock parameters.lock
  dispatch (← require (version.partialWithdrawFromLock parameters))

def updateKeyPrice (parameters : UpdateKeyPriceParameters) : GatewayM m Transaction := do
  let version ← resolve .publicLock parameters.lock
  dispatch (← require (version.updateKeyPrice parameters))

/-- Reads a lock, and tells the listeners of what was read. -/
def getLock (lock : Address) : GatewayM m LockSnapshot := do
  let version ← resolve .publicLock lock
  let snapshot ← ask (version.readLock lock)
  emit (.lockUpdated lock snapshot)
  return snapshot

def signData (account : Address) (data : Json) : GatewayM m String := do
  let connection ← require (← current).wallet
  ask (.signData connection.flavor account data)

def signDataPersonal (account : Address) (message : String) : GatewayM m String :=
  ask (.signPersonal account message)

end Gateway

end LockGateway
