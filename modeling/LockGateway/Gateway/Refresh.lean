import LockGateway.Gateway.Session
import LockGateway.Transaction.Tracking

/-! Following a transaction on the chain. -/

namespace LockGateway

/-- What a receipt says of its transaction. Old receipts carry no status, and
then the transaction succeeded. -/
def ChainObservation.ofReceipt (receipt : Json) : Except GatewayError ChainObservation := do
  if receipt.isNull then return .inMempool
  let block ← Quantity.ofJson (.ofOption (receipt.member? "blockNumber"))
  let blockNumber ← Quantity.toUInt64 block "blockNumber"
  match receipt.member? "status" with
  | none | some .null => return .included blockNumber true
  | some status => return .included blockNumber ((← Quantity.ofJson status) ≠ 0)

example : (ChainObservation.ofReceipt
    (.object [("blockNumber", .string "0x2a"), ("status", .string "0x0")])) =
      .ok (.included 42 false) := by
  rfl

/-- Asks for the transaction, and if the node knows it, for its receipt. -/
def Query.observe (hash : Hash) : Query ChainObservation := do
  let found ← send "eth_getTransactionByHash" (.list [.string hash.text])
  if found.isNull then return .notFound
  let receipt ← send "eth_getTransactionReceipt" (.list [.string hash.text])
  ofExcept (ChainObservation.ofReceipt receipt)

namespace Gateway

variable {m : Type → Type} [Monad m]

/-- Asks once where a transaction stands and moves it on. The action tells
whether the status changed, and what becomes of the transaction, which is there
after a failure too. -/
def refreshTransaction (transaction : Transaction) :
    StateT (Session m) m (Except GatewayError Bool × Transaction) := do
  match ← (ask (.observe transaction.hash)).run with
  | .error error => return (.error error, transaction)
  | .ok observation =>
      let progress := transaction.observe observation
      modify fun session => { session with events := session.events ++ progress.events }
      return (progress.changed, progress.transaction)

end Gateway

end LockGateway
