import LockGateway.Error

/-! How transactions and calls move from state to state. A final state is never
left. -/

namespace LockGateway

/-- Why a transaction moved. -/
inductive TransactionReason where
  | seenInMempool
  | receiptSuccess
  | receiptFailure
  deriving DecidableEq, Repr

def TransactionReason.name : TransactionReason → String
  | seenInMempool => "seen_in_mempool"
  | receiptSuccess => "receipt_success"
  | receiptFailure => "receipt_failure"

def TransactionStatus.after? :
    TransactionStatus → TransactionStep → Option (TransactionStatus × TransactionReason)
  | submitted, .broadcast => some (pending, .seenInMempool)
  | submitted, .mine | pending, .mine => some (mined, .receiptSuccess)
  | submitted, .fail | pending, .fail => some (failed, .receiptFailure)
  | _, _ => none

def TransactionStatus.after (status : TransactionStatus) (step : TransactionStep) :
    Except GatewayError (TransactionStatus × TransactionReason) :=
  match status.after? step with
  | some next => .ok next
  | none => .error (.validation (.illegalTransactionStep status step))

example : TransactionStatus.after? .pending .broadcast = none := rfl

def CallState.after? : CallState → CallStep → Option CallState
  | created, .send => some sent
  | sent, .succeed => some succeeded
  | sent, .fail => some failed
  | _, _ => none

def CallState.after (state : CallState) (step : CallStep) : Except GatewayError CallState :=
  match state.after? step with
  | some next => .ok next
  | none => .error (.validation (.illegalCallStep state step))

end LockGateway
