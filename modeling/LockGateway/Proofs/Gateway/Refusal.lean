import LockGateway.Proofs.Gateway.Account
import LockGateway.Proofs.Gateway.OneVersion
import LockGateway.Proofs.Relay.HostedAccount

/-! Operations that come to nothing. Each of them either wants something of the gateway that
is not there, or puts a question to the node first. If that question is refused, the whole
operation fails, and nobody is told of anything. -/

namespace LockGateway

variable {m : Type → Type} {σ α β : Type}

/-- What an operation failed with. A refresh has its failure in its answer. -/
def Turn.failure? (turn : Turn) : Option GatewayError :=
  match turn.outcome with
  | .error error => some error
  | .ok (.refreshed (.error error) _) => some error
  | .ok _ => none

/-! ## First questions -/

namespace Query

/-- The query starts with a call of the method, and fails if that is refused. -/
def HingesOn (query : Query α) (method : String) : Prop :=
  ∃ params resume, query = .call method (.list params) resume ∧
    ∀ reply : Reply, reply.Refuses → ∃ error, resume reply = .done (.error error)

namespace HingesOn

theorem bind {query : Query α} {method : String} (hinges : query.HingesOn method)
    (next : α → Query β) : (query >>= next).HingesOn method := by
  rcases hinges with ⟨params, resume, rfl, fails⟩
  refine ⟨params, fun reply => resume reply >>= next, rfl, ?_⟩
  intro reply refuses
  rcases fails reply refuses with ⟨error, failed⟩
  refine ⟨error, ?_⟩
  dsimp only
  rw [failed]
  rfl

theorem send (method : String) (params : List Json) :
    (Query.send method (.list params)).HingesOn method := by
  refine ⟨params, _, rfl, ?_⟩
  intro reply refuses
  rcases refuses.result_eq with ⟨error, failed⟩
  exact ⟨error, congrArg Query.done failed⟩

theorem code (address : Address) : (Query.code address).HingesOn "eth_getCode" :=
  send _ _

theorem observe (hash : Hash) : (Query.observe hash).HingesOn "eth_getTransactionByHash" :=
  (send _ _).bind _

/-- A signature is refused with an error of its own. -/
theorem sign (method : String) (params : List Json) :
    (Query.sign method (.list params)).HingesOn method := by
  refine ⟨params, _, rfl, ?_⟩
  rintro reply ⟨response, error, rfl, named⟩
  refine ⟨.signing error, congrArg Query.done ?_⟩
  rw [signatureOf]
  simp only [named]
  rfl

theorem signData (flavor : WalletFlavor) (account : Address) (data : Json) :
    (Query.signData flavor account data).HingesOn (typedDataRequest flavor account data).1 := by
  cases flavor with
  | metaMask => exact sign _ _
  | generic => exact sign _ _

theorem signPersonal (account : Address) (message : String) :
    (Query.signPersonal account message).HingesOn "personal_sign" :=
  sign _ _

/-- What is not known of a contract starts with the question for its code. -/
theorem resolve {registry : VersionRegistry} {kind : ContractKind} {address : Address}
    (fresh : registry.cached? kind address = none) :
    (registry.resolve kind address).HingesOn "eth_getCode" := by
  refine ⟨codeParams address, _, VersionRegistry.resolve_fresh fresh, ?_⟩
  intro reply refuses
  rcases refuses.result_eq with ⟨error, failed⟩
  refine ⟨error, ?_⟩
  simp only [failed]

end HingesOn

end Query

/-! ## Actions that fail -/

/-- Whatever the world is like, the action fails, and ends in some way. -/
def GatewayM.Fails (ends : GatewayError → Session (StateM σ) → Prop)
    (action : GatewayM (StateM σ) α) (session : Session (StateM σ)) : Prop :=
  ∀ world, ∃ error after later,
    action session world = ((.error error, after), later) ∧ ends error after

namespace GatewayM.Fails

variable {ends : GatewayError → Session (StateM σ) → Prop} {session : Session (StateM σ)}

theorem bind {action : GatewayM (StateM σ) α} (fails : Fails ends action session)
    (next : α → GatewayM (StateM σ) β) : Fails ends (action >>= next) session := by
  intro world
  rcases fails world with ⟨error, after, later, failed, ended⟩
  exact ⟨error, after, later, GatewayM.bind_error failed next, ended⟩

theorem current {next : Gateway (StateM σ) → GatewayM (StateM σ) α}
    (fails : Fails ends (next session.gateway) session) :
    Fails ends (Gateway.current >>= next) session :=
  fails

/-- An action fails on what it wants, or else later. -/
theorem require {outcome : Except GatewayError α} {next : α → GatewayM (StateM σ) β}
    (missing : ∀ error, outcome = .error error → ends error session)
    (fails : ∀ answer, outcome = .ok answer → Fails ends (next answer) session) :
    Fails ends (Gateway.require outcome >>= next) session := by
  cases outcome with
  | error error => exact fun world => ⟨error, session, world, rfl, missing error rfl⟩
  | ok answer => exact fails answer rfl

/-- A step whose action fails. -/
theorem step {operation : Operation (StateM σ)} {gateway : Gateway (StateM σ)}
    (fails : Fails ends operation.action (.start gateway)) (world : σ) :
    ∃ error, (Step.mk operation gateway world).turn.failure? = some error ∧
      ends error (Step.mk operation gateway world).ended := by
  rcases fails world with ⟨error, after, later, failed, ended⟩
  refine ⟨error, ?_, ?_⟩
  · change Turn.failure? ⟨(operation.action (.start gateway) world).1.1, _, _⟩ = some error
    rw [failed]
    rfl
  · change ends error (operation.action (.start gateway) world).1.2
    rw [failed]
    exact ended

end GatewayM.Fails

/-- The gateway gets no further than to a first question: what an operation wants is missing,
or what it asks is refused. -/
structure Gateway.Stuck (ends : GatewayError → Session (StateM σ) → Prop)
    (gateway : Gateway (StateM σ)) : Prop where
  wallet (error : GatewayError) (missing : gateway.wallet = .error error) :
    ends error (.start gateway)
  signer (order : Order) (error : GatewayError) (missing : order.signer gateway = .error error) :
    ends error (.start gateway)
  ask {γ : Type} {query : Query γ} {method : String} (hinges : query.HingesOn method)
    (unsupported : RelayHost.Unsupported method) :
    GatewayM.Fails ends (Gateway.ask query) (.start gateway)
  resolve (kind : ContractKind) (address : Address) :
    GatewayM.Fails ends (Gateway.resolve kind address) (.start gateway)

namespace Gateway.Stuck

variable {ends : GatewayError → Session (StateM σ) → Prop} {gateway : Gateway (StateM σ)}

theorem place (stuck : gateway.Stuck ends) (order : Order) :
    GatewayM.Fails ends order.place (.start gateway) := by
  have prepared : GatewayM.Fails ends order.prepare (.start gateway) := by
    apply GatewayM.Fails.current
    apply GatewayM.Fails.require (stuck.signer order)
    intro signer _
    exact (stuck.resolve _ _).bind _
  exact prepared.bind _

theorem signData (stuck : gateway.Stuck ends) (account : Address) (data : Json) :
    GatewayM.Fails ends (Gateway.signData account data) (.start gateway) := by
  apply GatewayM.Fails.current
  apply GatewayM.Fails.require stuck.wallet
  intro connection _
  apply stuck.ask (.signData connection.flavor account data)
  cases connection.flavor with
  | metaMask =>
      have unknown : RelayHost.Unsupported "eth_signTypedData_v3" := by constructor <;> decide
      exact unknown
  | generic =>
      have unknown : RelayHost.Unsupported "eth_signTypedData" := by constructor <;> decide
      exact unknown

theorem isUnlockContractDeployed (stuck : gateway.Stuck ends) :
    GatewayM.Fails ends Gateway.isUnlockContractDeployed (.start gateway) := by
  apply GatewayM.Fails.current
  have asked := stuck.ask (.code gateway.config.unlockAddress) (by constructor <;> decide)
  exact asked.bind _

theorem getLock (stuck : gateway.Stuck ends) (lock : Address) :
    GatewayM.Fails ends (Gateway.getLock lock) (.start gateway) :=
  (stuck.resolve .publicLock lock).bind _

/-- Every operation but one that connects or loads the account fails. -/
theorem action_fails (stuck : gateway.Stuck ends) {operation : Operation (StateM σ)}
    (stays : operation.endpoint? = none) (other : operation ≠ .getAccount) (world : σ) :
    ∃ error, (Step.mk operation gateway world).turn.failure? = some error ∧
      ends error (Step.mk operation gateway world).ended := by
  have answering {γ : Type} {action : GatewayM (StateM σ) γ} (answer : γ → Answer)
      (fails : GatewayM.Fails ends action (.start gateway)) :
      GatewayM.Fails ends (do return answer (← action) : GatewayM (StateM σ) Answer)
        (.start gateway) :=
    fails.bind _
  have ordering (order : Order) : GatewayM.Fails ends
      (order.operation : Operation (StateM σ)).action (.start gateway) := by
    rw [order.action_eq]
    exact answering .transaction (stuck.place order)
  cases operation with
  | connect endpoint => cases stays
  | reconnect endpoint => cases stays
  | getAccount => exact absurd rfl other
  | isUnlockContractDeployed =>
      have undeployed := answering .deployed stuck.isUnlockContractDeployed
      exact GatewayM.Fails.step undeployed world
  | createLock parameters => exact GatewayM.Fails.step (ordering (.createLock parameters)) world
  | purchaseKey parameters =>
      exact GatewayM.Fails.step (ordering (.purchaseKey parameters)) world
  | withdrawFromLock parameters =>
      exact GatewayM.Fails.step (ordering (.withdraw parameters)) world
  | partialWithdrawFromLock parameters =>
      exact GatewayM.Fails.step (ordering (.partialWithdraw parameters)) world
  | updateKeyPrice parameters =>
      exact GatewayM.Fails.step (ordering (.updateKeyPrice parameters)) world
  | getLock lock =>
      have unread := answering .snapshot (stuck.getLock lock)
      exact GatewayM.Fails.step unread world
  | signData account data =>
      have unsigned := answering .signature (stuck.signData account data)
      exact GatewayM.Fails.step unsigned world
  | signDataPersonal account message =>
      have asked := stuck.ask (.signPersonal account message) (by constructor <;> decide)
      exact GatewayM.Fails.step (answering .signature asked) world
  | refreshTransaction transaction =>
      have observed := stuck.ask (.observe transaction.hash) (by constructor <;> decide)
      rcases observed world with ⟨error, after, later, failed, ended⟩
      have refreshed : Gateway.refreshTransaction transaction (.start gateway) world =
          (((.error error, transaction), after), later) := by
        rw [Gateway.refreshTransaction_eq, failed]
      refine ⟨error, ?_, ?_⟩
      · let asked := Gateway.refreshTransaction transaction (.start gateway) world
        change Turn.failure? ⟨.ok (.refreshed asked.1.1.1 asked.1.1.2), _, _⟩ = some error
        dsimp only [asked]
        rw [refreshed]
        rfl
      · change ends error (Gateway.refreshTransaction transaction (.start gateway) world).1.2
        rw [refreshed]
        exact ended

end Gateway.Stuck

/-! ## Without a wallet -/

/-- Without a wallet of use every operation fails, asks nothing and tells nobody. -/
theorem Step.refused (step : Step σ) {error : GatewayError}
    (useless : step.gateway.wallet = .error error) (stays : step.operation.endpoint? = none) :
    step.turn.failure? = some error ∧ step.ended = .start step.gateway := by
  rcases step with ⟨operation, gateway, world⟩
  dsimp only at useless stays ⊢
  have started : (Session.start gateway).gateway.wallet = .error error := useless
  have signer (order : Order) (other : GatewayError)
      (missing : order.signer gateway = .error other) : other = error := by
    have signing : (do
        discard gateway.wallet
        gateway.sender : Except GatewayError Address) = .error error := by
      rw [useless]
      rfl
    cases order with
    | createLock | purchaseKey => exact Except.error.inj (missing.symm.trans signing)
    | withdraw | partialWithdraw | updateKeyPrice => cases missing
  have stuck : gateway.Stuck fun found after => found = error ∧ after = .start gateway :=
    { wallet := fun other missing => ⟨Except.error.inj (missing.symm.trans useless), rfl⟩
      signer := fun order other missing => ⟨signer order other missing, rfl⟩
      ask := fun _ _ world => ⟨error, _, world, Gateway.ask_refused started world, rfl, rfl⟩
      resolve := fun kind address world =>
        ⟨error, _, world, ContractTask.resolve_refused useless kind address world, rfl, rfl⟩ }
  have failed : ∃ found, (Step.mk operation gateway world).turn.failure? = some found ∧
      found = error ∧ (Step.mk operation gateway world).ended = .start gateway := by
    by_cases loads : operation = .getAccount
    · subst loads
      have unloaded : GatewayM.Fails (fun found after => found = error ∧ after = .start gateway)
          Gateway.getAccount (.start gateway) := fun world =>
        ⟨error, _, world, Gateway.getAccount_refused started world, rfl, rfl⟩
      have unanswered : GatewayM.Fails _ Operation.getAccount.action (.start gateway) :=
        unloaded.bind _
      exact unanswered.step world
    · exact stuck.action_fails stays loads world
  rcases failed with ⟨found, failed, rfl, ended⟩
  exact ⟨failed, ended⟩

end LockGateway
