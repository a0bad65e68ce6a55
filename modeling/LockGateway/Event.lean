import LockGateway.Error
import LockGateway.Lock.Snapshot
import LockGateway.Wallet

/-! What a gateway tells its listeners. -/

namespace LockGateway

inductive Event where
  | accountChanged (account : Address)
  | networkChanged (network : UInt64)
  /-- A transaction is about to be handed in. -/
  | transactionPending (kind : TransactionKind)
  | transactionNew (transaction : Transaction)
  | transactionUpdated (hash : Hash) (status : TransactionStatus)
  | lockUpdated (lock : Address) (snapshot : LockSnapshot)
  | walletInfo (info : WalletInfo)
  /-- An account is loaded. -/
  | ready
  | error (error : GatewayError)
  deriving Repr

def Event.name : Event → String
  | accountChanged _ => "account.changed"
  | networkChanged _ => "network.changed"
  | transactionPending _ => "transaction.pending"
  | transactionNew _ => "transaction.new"
  | transactionUpdated _ _ => "transaction.updated"
  | lockUpdated _ _ => "lock.updated"
  | walletInfo _ => "wallet.info"
  | ready => "ready"
  | error _ => "error"

end LockGateway
