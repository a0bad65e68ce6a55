import LockGateway.Proofs.Gateway.Action

/-! Orders: the five operations that hand in a transaction, seen as one. Each finds
out who signs and which version the contract has, encodes a call, and dispatches
it. -/

namespace LockGateway

inductive Order where
  | createLock (parameters : CreateLockParameters)
  | purchaseKey (parameters : PurchaseKeyParameters)
  | withdraw (parameters : WithdrawParameters)
  | partialWithdraw (parameters : WithdrawParameters)
  | updateKeyPrice (parameters : UpdateKeyPriceParameters)

namespace Order

variable {m : Type → Type} {σ : Type}

def operation : Order → Operation m
  | createLock parameters => .createLock parameters
  | purchaseKey parameters => .purchaseKey parameters
  | withdraw parameters => .withdrawFromLock parameters
  | partialWithdraw parameters => .partialWithdrawFromLock parameters
  | updateKeyPrice parameters => .updateKeyPrice parameters

/-- The kind under which the transaction is reported. -/
def kind : Order → TransactionKind
  | createLock _ => .lockCreation
  | purchaseKey _ => .keyPurchase
  | withdraw _ | partialWithdraw _ => .withdrawal
  | updateKeyPrice _ => .updateKeyPrice

/-- The contract that is called. -/
def contract (unlock : Address) : Order → ContractKind × Address
  | createLock _ => (.unlock, unlock)
  | purchaseKey parameters => (.publicLock, parameters.lock)
  | withdraw parameters | partialWithdraw parameters => (.publicLock, parameters.lock)
  | updateKeyPrice parameters => (.publicLock, parameters.lock)

/-- Who sends the transaction: the account that is loaded, or the one that is named. -/
def signer (gateway : Gateway m) : Order → Except GatewayError Address
  | createLock _ | purchaseKey _ => do
      discard gateway.wallet
      gateway.sender
  | withdraw parameters | partialWithdraw parameters => .ok parameters.account
  | updateKeyPrice parameters => .ok parameters.account

def encode (unlock signer : Address) (version : ContractVersion) :
    Order → Except GatewayError ContractCall
  | createLock parameters => version.createLock unlock signer parameters
  | purchaseKey parameters => version.purchaseKey signer parameters
  | withdraw parameters => version.withdrawFromLock parameters
  | partialWithdraw parameters => version.partialWithdrawFromLock parameters
  | updateKeyPrice parameters => version.updateKeyPrice parameters

variable [Monad m]

/-- All that is done before anything is handed in. -/
def prepare (order : Order) : GatewayM m ContractCall := do
  let gateway ← Gateway.current
  let signer ← Gateway.require (order.signer gateway)
  let contract := order.contract gateway.config.unlockAddress
  let version ← Gateway.resolve contract.1 contract.2
  Gateway.require (order.encode gateway.config.unlockAddress signer version)

def place (order : Order) : GatewayM m Transaction := do
  Gateway.dispatch (← order.prepare)

theorem action_eq (order : Order) :
    (order.operation : Operation (StateM σ)).action =
      (do return .transaction (← order.place) : GatewayM (StateM σ) Answer) := by
  have checked (gateway : Gateway (StateM σ)) :
      (do
        discard <| Gateway.require gateway.wallet
        Gateway.require gateway.sender : GatewayM (StateM σ) Address) =
      Gateway.require (do
        discard gateway.wallet
        gateway.sender) := by
    cases gateway.wallet <;> rfl
  cases order with
  | createLock parameters =>
      simp only [operation, Operation.action, Gateway.createLock, place, prepare, bind_assoc,
        signer, contract, encode, ← checked]
  | purchaseKey parameters =>
      simp only [operation, Operation.action, Gateway.purchaseKey, place, prepare, bind_assoc,
        signer, contract, encode, ← checked]
  | withdraw parameters =>
      simp only [operation, Operation.action, Gateway.withdrawFromLock, place, prepare,
        bind_assoc, signer, contract, encode]
      rfl
  | partialWithdraw parameters =>
      simp only [operation, Operation.action, Gateway.partialWithdrawFromLock, place, prepare,
        bind_assoc, signer, contract, encode]
      rfl
  | updateKeyPrice parameters =>
      simp only [operation, Operation.action, Gateway.updateKeyPrice, place, prepare,
        bind_assoc, signer, contract, encode]
      rfl

end Order

end LockGateway
