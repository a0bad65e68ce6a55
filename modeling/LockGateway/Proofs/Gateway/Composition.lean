import LockGateway.Proofs.Connection.Numbering
import LockGateway.Proofs.Gateway.Connecting
import LockGateway.Proofs.Gateway.Order

/-! What the operations of a gateway are put together from. There are only a few things that
an action can do: it looks at the gateway, puts queries to the node, tells the listeners, and
puts down what it learned. A property that goes with each of these goes with every operation. -/

namespace LockGateway

variable {m : Type → Type} {σ α β : Type}

/-! ## Parts of an action -/

/-- Two gateways that an action cannot tell apart by looking. It does not look at what is known
of versions unless it resolves one. -/
structure Gateway.LooksLike (gateway other : Gateway m) : Prop where
  config : other.config = gateway.config
  account : other.account = gateway.account
  flavor : other.wallet.map Connection.flavor = gateway.wallet.map Connection.flavor

/-- The event says nothing of the gateway's own state. -/
def Event.isOutward : Event → Bool
  | .walletInfo _ | .networkChanged _ | .accountChanged _ | .ready => false
  | .transactionPending _ | .transactionNew _ | .transactionUpdated _ _ | .lockUpdated _ _
  | .error _ => true

/-- What an action may put down, and how many calls it may make together. -/
structure Scope where
  network : Bool
  account : Bool
  versions : Bool
  batch : Nat

namespace Scope

/-- Single calls, and nothing to put down. -/
def asking : Scope := { network := false, account := false, versions := false, batch := 0 }

/-- What is done over a connection as soon as it is open. -/
def greeting : Scope := { asking with network := true }

end Scope

/-- The actions that stay within a scope. -/
inductive GatewayM.Composed (scope : Scope) : {α : Type} → GatewayM (StateM σ) α → Prop
  | require {α : Type} (outcome : Except GatewayError α) : Composed scope (Gateway.require outcome)
  | bind {α β : Type} {action : GatewayM (StateM σ) α} {next : α → GatewayM (StateM σ) β}
      (early : Composed scope action) (late : ∀ answer, Composed scope (next answer)) :
      Composed scope (action >>= next)
  /-- An action that is gone on from after a failure too. -/
  | attempt {α : Type} {action : GatewayM (StateM σ) α} (composed : Composed scope action) :
      Composed scope (ExceptT.lift action.run : GatewayM (StateM σ) (Except GatewayError α))
  | look {α : Type} {next : Gateway (StateM σ) → GatewayM (StateM σ) α}
      (same : ∀ {gateway other}, gateway.LooksLike other → next other = next gateway)
      (parts : ∀ gateway, Composed scope (next gateway)) :
      Composed scope (Gateway.current >>= next)
  | tell {events : List Event} (outward : ∀ event ∈ events, event.isOutward = true) :
      Composed scope (Gateway.emitAll events)
  | inquire {α : Type} {query : Query α} (relayable : query.Relayable)
      (within : query.BatchesWithin scope.batch) : Composed scope (Gateway.inquire query)
  | joinNetwork (may : scope.network = true) : Composed scope Gateway.joinNetwork
  | getAccount (may : scope.account = true) : Composed scope Gateway.getAccount
  | resolve (may : scope.versions = true) (kind : ContractKind) (address : Address) :
      Composed scope (Gateway.resolve kind address)

theorem TransactionKind.track_outward (kind : TransactionKind)
    (handedIn : Except GatewayError SentTransaction) :
    ∀ event ∈ (kind.track handedIn).2, event.isOutward = true := by
  rw [track]
  cases handedIn.bind (·.submitted kind) with
  | ok transaction => simp [Event.isOutward]
  | error error => simp [Event.isOutward]

theorem Transaction.observe_outward (transaction : Transaction) (observation : ChainObservation) :
    ∀ event ∈ (transaction.observe observation).events, event.isOutward = true := by
  rw [observe]
  split
  · simp
  · split
    · simp
    · dsimp only
      split
      · simp
      · simp [Event.isOutward]

/-! ## Relations -/

/-- A relation between sessions that holds wherever an action within a scope leads. -/
structure Session.Framed (scope : Scope)
    (relation : Session (StateM σ) → Session (StateM σ) → Prop) : Prop where
  refl (session : Session (StateM σ)) : relation session session
  trans {first second third : Session (StateM σ)} (early : relation first second)
    (late : relation second third) : relation first third
  told {events : List Event} (outward : ∀ event ∈ events, event.isOutward = true)
    (session : Session (StateM σ)) :
    relation session { session with events := session.events ++ events }
  asked {α : Type} {query : Query α} (relayable : query.Relayable)
    (within : query.BatchesWithin scope.batch) : GatewayM.Keeps relation (Gateway.inquire query)
  joined (may : scope.network = true) :
    GatewayM.Keeps relation (Gateway.joinNetwork (m := StateM σ))
  loaded (may : scope.account = true) : GatewayM.Keeps relation (Gateway.getAccount (m := StateM σ))
  resolved (may : scope.versions = true) (kind : ContractKind) (address : Address) :
    GatewayM.Keeps relation (Gateway.resolve (m := StateM σ) kind address)

theorem Session.Framed.keeps {scope : Scope}
    {relation : Session (StateM σ) → Session (StateM σ) → Prop} (framed : Framed scope relation)
    {action : GatewayM (StateM σ) α} (composed : action.Composed scope) :
    GatewayM.Keeps relation action := by
  induction composed with
  | require outcome => exact .of_same framed.refl fun _ _ => rfl
  | bind early late earlyKeeps lateKeeps => exact .bind framed.trans earlyKeeps lateKeeps
  | attempt composed keeps => exact keeps
  | look same parts keeps => exact fun session => keeps session.gateway session
  | tell outward => exact fun session _ => framed.told outward session
  | inquire relayable within => exact framed.asked relayable within
  | joinNetwork may => exact framed.joined may
  | getAccount may => exact framed.loaded may
  | resolve may kind address => exact framed.resolved may kind address

/-! ## Operations -/

namespace GatewayM.Composed

variable {scope : Scope}

theorem pure (answer : α) : Composed (σ := σ) scope (Pure.pure answer) := .require (.ok answer)

theorem throw (error : GatewayError) :
    Composed (σ := σ) scope (MonadExcept.throw error : GatewayM (StateM σ) α) :=
  .require (.error error)

theorem emit {event : Event} (outward : event.isOutward = true) :
    Composed (σ := σ) scope (Gateway.emit event) := by
  have single : ∀ told ∈ [event], told.isOutward = true := by simpa using outward
  exact .tell single

theorem ask {query : Query α} (relayable : query.Relayable)
    (within : query.BatchesWithin scope.batch) : Composed (σ := σ) scope (Gateway.ask query) :=
  .bind (.inquire relayable within) .require

/-- An action whose answer is only put into the form of an operation's. -/
theorem answering (answer : α → Answer) {action : GatewayM (StateM σ) α}
    (composed : action.Composed scope) :
    (do return answer (← action) : GatewayM (StateM σ) Answer).Composed scope :=
  .bind composed fun _ => .pure _

theorem isUnlockContractDeployed : Composed (σ := σ) scope Gateway.isUnlockContractDeployed := by
  apply look
  · intro gateway other looks
    rw [looks.config]
  · intro gateway
    exact .bind (.ask (.code _) (.code _)) fun _ => .pure _

theorem signData (account : Address) (data : Json) :
    Composed (σ := σ) scope (Gateway.signData account data) := by
  have signs (gateway : Gateway (StateM σ)) :
      (do
        let connection ← Gateway.require gateway.wallet
        Gateway.ask (.signData connection.flavor account data) : GatewayM (StateM σ) String) =
      Gateway.require (gateway.wallet.map Connection.flavor) >>= fun flavor =>
        Gateway.ask (.signData flavor account data) := by
    cases gateway.wallet <;> rfl
  apply look
  · intro gateway other looks
    rw [signs, signs, looks.flavor]
  · intro gateway
    exact .bind (.require _) fun connection => .ask (.signData _ _ _) (.sign _ _)

theorem dispatch (call : ContractCall) : Composed (σ := σ) scope (Gateway.dispatch call) := by
  apply bind (.inquire (.handIn call) (.handIn call))
  intro handedIn
  have outward := call.kind.track_outward handedIn
  revert outward
  rcases call.kind.track handedIn with ⟨outcome, events⟩
  intro outward
  apply bind (.tell outward)
  intro _
  cases outcome with
  | ok transaction => exact .pure transaction
  | error error => exact .bind (.emit rfl) fun _ => .throw error

/-- Whoever signs is the account or whoever is named, if there is a wallet. -/
theorem signer_eq (order : Order) {gateway other : Gateway (StateM σ)}
    (looks : gateway.LooksLike other) : order.signer other = order.signer gateway := by
  have sender : other.sender = gateway.sender := by
    unfold Gateway.sender
    rw [looks.account]
  have checked (gateway : Gateway (StateM σ)) :
      (discard gateway.wallet : Except GatewayError Unit) =
      discard (gateway.wallet.map Connection.flavor) := by
    cases gateway.wallet <;> rfl
  cases order with
  | createLock | purchaseKey =>
      unfold Order.signer
      rw [checked, checked, looks.flavor, sender]
  | withdraw | partialWithdraw | updateKeyPrice => rfl

theorem prepare (order : Order) (may : scope.versions = true) :
    Composed (σ := σ) scope order.prepare := by
  apply look
  · intro gateway other looks
    rw [signer_eq order looks, looks.config]
  · intro gateway
    apply bind (.require _)
    intro signer
    exact .bind (.resolve may _ _) fun version => .require _

theorem place (order : Order) (may : scope.versions = true) :
    Composed (σ := σ) scope order.place :=
  .bind (.prepare order may) .dispatch

/-- How a refresh goes on once the node was asked for the transaction. -/
def observed (transaction : Transaction) :
    Except GatewayError ChainObservation → GatewayM (StateM σ) Answer
  | .error error => return .refreshed (.error error) transaction
  | .ok observation => do
      Gateway.emitAll (transaction.observe observation).events
      return .refreshed (transaction.observe observation).changed
        (transaction.observe observation).transaction

theorem refreshTransaction (transaction : Transaction) :
    Composed (σ := σ) scope (Operation.refreshTransaction transaction).action := by
  have refreshes : (Operation.refreshTransaction transaction).action =
      ((ExceptT.lift (Gateway.ask (.observe transaction.hash)).run : GatewayM (StateM σ) _) >>=
        observed transaction) := by
    funext session world
    have refreshed := Gateway.refreshTransaction_eq transaction session world
    change (let ended := Gateway.refreshTransaction transaction session world
      (((.ok (.refreshed ended.1.1.1 ended.1.1.2), ended.1.2), ended.2) :
        (Except GatewayError Answer × Session (StateM σ)) × σ)) =
      let asked := Gateway.ask (.observe transaction.hash) session world
      observed transaction asked.1.1 asked.1.2 asked.2
    dsimp only
    rw [refreshed]
    rcases Gateway.ask (.observe transaction.hash) session world with
      ⟨⟨error | observation, after⟩, later⟩
    · rfl
    · rfl
  rw [refreshes]
  apply bind (.attempt (.ask (.observe transaction.hash) (.observe transaction.hash)))
  intro outcome
  cases outcome with
  | error error => exact .pure _
  | ok observation =>
      exact .bind (.tell (transaction.observe_outward observation)) fun _ => .pure _

theorem greet (info : WalletInfo) : Composed (σ := σ) .greeting (Gateway.greet info) := by
  unfold Gateway.greet
  cases info.noWallet with
  | true => exact .pure info
  | false => exact .bind (.joinNetwork rfl) fun _ => .pure info

end GatewayM.Composed

namespace Operation

/-- Where an operation connects to, if it does. -/
def endpoint? : Operation m → Option (Endpoint m)
  | connect endpoint | reconnect endpoint => some endpoint
  | _ => none

/-- What an operation may put down, and how many calls it may make together. A connection
that it opens is greeted. -/
def scope : Operation m → Scope
  | connect _ | reconnect _ => .greeting
  | getAccount => { Scope.asking with account := true }
  | createLock _ | purchaseKey _ | withdrawFromLock _ | partialWithdrawFromLock _
  | updateKeyPrice _ => { Scope.asking with versions := true }
  | getLock _ => { Scope.asking with versions := true, batch := Backend.largestBatch }
  | isUnlockContractDeployed | signData _ _ | signDataPersonal _ _ | refreshTransaction _ => .asking

/-- An operation that does not connect stays within its scope. -/
theorem action_composed (operation : Operation (StateM σ)) (stays : operation.endpoint? = none) :
    operation.action.Composed operation.scope := by
  have ordering (order : Order) :
      (order.operation : Operation (StateM σ)).action.Composed
        { Scope.asking with versions := true } := by
    rw [order.action_eq]
    exact .answering .transaction (.place order rfl)
  cases operation with
  | connect endpoint => cases stays
  | reconnect endpoint => cases stays
  | getAccount => exact .answering .account (.getAccount rfl)
  | isUnlockContractDeployed => exact .answering .deployed .isUnlockContractDeployed
  | createLock parameters => exact ordering (.createLock parameters)
  | purchaseKey parameters => exact ordering (.purchaseKey parameters)
  | withdrawFromLock parameters => exact ordering (.withdraw parameters)
  | partialWithdrawFromLock parameters => exact ordering (.partialWithdraw parameters)
  | updateKeyPrice parameters => exact ordering (.updateKeyPrice parameters)
  | getLock lock =>
      apply GatewayM.Composed.answering .snapshot
      apply GatewayM.Composed.bind (.resolve rfl .publicLock lock)
      intro version
      apply GatewayM.Composed.bind (.ask (.readLock version lock) (.readLock version lock))
      intro snapshot
      exact .bind (.emit rfl) fun _ => .pure snapshot
  | signData account data => exact .answering .signature (.signData account data)
  | signDataPersonal account message =>
      exact .answering .signature (.ask (.signPersonal account message) (.sign _ _))
  | refreshTransaction transaction => exact .refreshTransaction transaction

/-- To reconnect is to connect again. -/
theorem action_connects {operation : Operation (StateM σ)} {endpoint : Endpoint (StateM σ)}
    (connects : operation.endpoint? = some endpoint) (session : Session (StateM σ)) (world : σ) :
    operation.action session world =
      (((Gateway.connect endpoint session world).1.1.map .walletInfo,
        (Gateway.connect endpoint session world).1.2),
        (Gateway.connect endpoint session world).2) := by
  rw [← GatewayM.return_eq]
  cases operation with
  | connect other =>
      cases connects
      rfl
  | reconnect other =>
      cases connects
      rfl
  | _ => cases connects

end Operation

end LockGateway
