import LockGateway.Event
import LockGateway.Lifecycle

/-! Tracking of transactions: what is told when one is handed in, and how what a
node reports of it later moves it on. -/

namespace LockGateway

/-! ## Handing in -/

/-- The transaction that a node accepted. The zero hash stands for none. -/
def SentTransaction.submitted (sent : SentTransaction) (kind : TransactionKind) :
    Except GatewayError Transaction :=
  if sent.hash = Hash.zero then .error (.invalidResponse .emptyHash)
  else .ok
    { hash := sent.hash
      sender := sent.sender
      receiver := sent.receiver
      data := sent.data
      kind
      status := .submitted
      blockNumber := none }

/-- The outcome of handing in a transaction and the events that tell of it. -/
def TransactionKind.track (kind : TransactionKind)
    (handedIn : Except GatewayError SentTransaction) :
    Except GatewayError Transaction × List Event :=
  match handedIn.bind (·.submitted kind) with
  | .ok transaction =>
      (.ok transaction, [.transactionPending kind, .transactionNew transaction])
  | .error error => (.error error, [.transactionPending kind])

/-! ## Following -/

/-- What a node reports of a transaction. -/
inductive ChainObservation where
  | notFound
  | inMempool
  | included (blockNumber : UInt64) (success : Bool)
  deriving DecidableEq, Repr

namespace ChainObservation

/-- The step that an observation is for a transaction that is not final. -/
def step? (observation : ChainObservation) (status : TransactionStatus) :
    Option TransactionStep :=
  match observation with
  | notFound => none
  | inMempool => if status = .pending then none else some .broadcast
  | included _ true => some .mine
  | included _ false => some .fail

def blockNumber? : ChainObservation → Option UInt64
  | notFound | inMempool => none
  | included blockNumber _ => some blockNumber

end ChainObservation

/-- What becomes of a transaction that was observed. -/
structure TransactionProgress where
  /-- Whether the status changed. -/
  changed : Except GatewayError Bool
  transaction : Transaction
  events : List Event

namespace Transaction

def observe (transaction : Transaction) (observation : ChainObservation) :
    TransactionProgress :=
  if transaction.status.isFinal then { changed := .ok false, transaction, events := [] }
  else match observation.step? transaction.status with
    | none => { changed := .ok false, transaction, events := [] }
    | some step =>
        let placed := { transaction with
          blockNumber := observation.blockNumber?.or transaction.blockNumber }
        match transaction.status.after step with
        | .error error => { changed := .error error, transaction := placed, events := [] }
        | .ok (status, _) =>
            { changed := .ok true
              transaction := { placed with status }
              events := [.transactionUpdated transaction.hash status] }

/-- A pending transaction that is seen in the pool once more stays as it is. -/
example (transaction : Transaction) (pending : transaction.status = .pending) :
    (transaction.observe .inMempool).transaction = transaction := by
  simp [observe, pending, TransactionStatus.isFinal, ChainObservation.step?]

end Transaction

end LockGateway
