import LockGateway.Gateway.Connecting
import LockGateway.Gateway.Locks
import LockGateway.Gateway.Refresh

/-! The operations of a gateway as data, and runs of them. A run is a list of
turns: what an operation answered, which requests it sent and which events it
told of, in the order in which that happened. -/

namespace LockGateway

inductive Operation (m : Type → Type) where
  | connect (endpoint : Endpoint m)
  | reconnect (endpoint : Endpoint m)
  | getAccount
  | isUnlockContractDeployed
  | createLock (parameters : CreateLockParameters)
  | purchaseKey (parameters : PurchaseKeyParameters)
  | withdrawFromLock (parameters : WithdrawParameters)
  | partialWithdrawFromLock (parameters : WithdrawParameters)
  | updateKeyPrice (parameters : UpdateKeyPriceParameters)
  | getLock (lock : Address)
  | signData (account : Address) (data : Json)
  | signDataPersonal (account : Address) (message : String)
  | refreshTransaction (transaction : Transaction)

/-- What an operation answers. -/
inductive Answer where
  | walletInfo (info : WalletInfo)
  | account (account : Option Address)
  | deployed (deployed : Bool)
  | transaction (transaction : Transaction)
  | snapshot (snapshot : LockSnapshot)
  | signature (text : String)
  /-- The transaction is there whether it could be refreshed or not. -/
  | refreshed (changed : Except GatewayError Bool) (transaction : Transaction)

structure Turn where
  outcome : Except GatewayError Answer
  issued : List IssuedRequest
  events : List Event

/-- Whether the operation was broken off without an answer. -/
def Turn.aborted (turn : Turn) : Bool :=
  match turn.outcome with
  | .error .aborted => true
  | _ => false

namespace Operation

variable {m : Type → Type} [Monad m]

def action : Operation m → GatewayM m Answer
  | connect endpoint => return .walletInfo (← Gateway.connect endpoint)
  | reconnect endpoint => return .walletInfo (← Gateway.reconnect endpoint)
  | getAccount => return .account (← Gateway.getAccount)
  | isUnlockContractDeployed => return .deployed (← Gateway.isUnlockContractDeployed)
  | createLock parameters => return .transaction (← Gateway.createLock parameters)
  | purchaseKey parameters => return .transaction (← Gateway.purchaseKey parameters)
  | withdrawFromLock parameters => return .transaction (← Gateway.withdrawFromLock parameters)
  | partialWithdrawFromLock parameters =>
      return .transaction (← Gateway.partialWithdrawFromLock parameters)
  | updateKeyPrice parameters => return .transaction (← Gateway.updateKeyPrice parameters)
  | getLock lock => return .snapshot (← Gateway.getLock lock)
  | signData account data => return .signature (← Gateway.signData account data)
  | signDataPersonal account message =>
      return .signature (← Gateway.signDataPersonal account message)
  | refreshTransaction transaction => do
      let (changed, transaction) ← ExceptT.lift (Gateway.refreshTransaction transaction)
      return .refreshed changed transaction

/-- Performs an operation on a gateway. One that is aborted leaves no gateway behind. -/
def perform (operation : Operation m) (gateway : Gateway m) : m (Turn × Option (Gateway m)) := do
  let (outcome, session) ← (operation.action.run).run (.start gateway)
  let turn := { outcome, issued := session.issued, events := session.events }
  return (turn, if turn.aborted then none else some session.gateway)

/-- Performs operations one after the other, whether they fail or not. One that is
aborted is the last. -/
def performAll : List (Operation m) → Gateway m → m (List Turn × Option (Gateway m))
  | [], gateway => pure ([], some gateway)
  | operation :: rest, gateway => do
      match ← operation.perform gateway with
      | (turn, none) => return ([turn], none)
      | (turn, some next) => do
          let (turns, last) ← performAll rest next
          return (turn :: turns, last)

end Operation

end LockGateway
