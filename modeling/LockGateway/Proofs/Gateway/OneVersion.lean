import LockGateway.Proofs.Gateway.History
import LockGateway.Proofs.Gateway.Unversioned
import LockGateway.Proofs.Gateway.VersionProbe

/-! One version for each contract and connection. A contract's version is asked for until it
is first learned. From then on the node is not asked for it any more, and whatever is done
on the contract is done as in that version, until the next attempt to connect. -/

namespace LockGateway

variable {m : Type → Type} {σ : Type}

/-! ## What needs a version -/

/-- What is done on a contract, and differs with its version. -/
inductive ContractTask where
  | placing (order : Order)
  | reading (lock : Address)

namespace ContractTask

def operation : ContractTask → Operation m
  | placing order => order.operation
  | reading lock => .getLock lock

def contract (unlock : Address) : ContractTask → ContractKind × Address
  | placing order => order.contract unlock
  | reading lock => (.publicLock, lock)

/-- What has to be there before the version is asked for. -/
def admission (gateway : Gateway m) : ContractTask → Except GatewayError Unit
  | placing order => do
      discard (order.signer gateway)
      discard gateway.wallet
  | reading _ => discard gateway.wallet

/-- What is done on a contract once its version is known. -/
def onVersion [Monad m] (gateway : Gateway m) (version : ContractVersion) :
    ContractTask → GatewayM m Answer
  | placing order => do
      let call ← Gateway.require do
        let signer ← order.signer gateway
        order.encode gateway.config.unlockAddress signer version
      return .transaction (← Gateway.dispatch call)
  | reading lock => do
      let snapshot ← Gateway.ask (version.readLock lock)
      Gateway.emit (.lockUpdated lock snapshot)
      return .snapshot snapshot

theorem onVersion_ignores (task : ContractTask) (gateway : Gateway (StateM σ))
    (version : ContractVersion) :
    GatewayM.IgnoresVersions (task.onVersion gateway version) := by
  have composed : (task.onVersion gateway version).Composed
      { Scope.asking with batch := Backend.largestBatch } := by
    cases task with
    | placing order =>
        apply GatewayM.Composed.bind (.require _)
        intro call
        exact .answering .transaction (.dispatch call)
    | reading lock =>
        apply GatewayM.Composed.bind (.ask (.readLock version lock) (.readLock version lock))
        intro snapshot
        exact .bind (.emit rfl) fun _ => .pure _
  exact .of_composed rfl composed

variable {task : ContractTask} {gateway : Gateway (StateM σ)}

/-- An order wants its signer first, and then the wallet. -/
theorem placing_admission (order : Order) (gateway : Gateway (StateM σ)) :
    (placing order).admission gateway = match order.signer gateway, gateway.wallet with
      | .error error, _ => .error error
      | .ok _, .error error => .error error
      | .ok _, .ok _ => .ok () := by
  change (do
    discard (order.signer gateway)
    discard gateway.wallet : Except GatewayError Unit) = _
  cases order.signer gateway with
  | error error => rfl
  | ok signer =>
      cases gateway.wallet with
      | error error => rfl
      | ok connection => rfl

theorem wallet_of_admission (admitted : task.admission gateway = .ok ()) :
    ∃ connection, gateway.wallet = .ok connection := by
  cases found : gateway.wallet with
  | ok connection => exact ⟨connection, rfl⟩
  | error error =>
      cases task with
      | placing order =>
          rw [placing_admission, found] at admitted
          cases signed : order.signer gateway with
          | error other =>
              rw [signed] at admitted
              cases admitted
          | ok signer =>
              rw [signed] at admitted
              cases admitted
      | reading lock =>
          rw [admission, found] at admitted
          cases admitted

/-- Without a wallet no version is asked for. -/
theorem resolve_refused {error : GatewayError} (wanting : gateway.wallet = .error error)
    (kind : ContractKind) (address : Address) (world : σ) :
    Gateway.resolve kind address (.start gateway) world =
      ((.error error, .start gateway), world) := by
  rw [Gateway.resolve_eq]
  exact GatewayM.bind_error (Gateway.ask_refused wanting world) _

theorem prepare_refused {order : Order} {error : GatewayError}
    (refused : (placing order).admission gateway = .error error) (world : σ) :
    order.prepare (.start gateway) world = ((.error error, .start gateway), world) := by
  rw [placing_admission] at refused
  rw [order.prepare_eq]
  cases signed : order.signer gateway with
  | error other =>
      rw [signed] at refused
      cases refused
      rfl
  | ok signer =>
      cases found : gateway.wallet with
      | error other =>
          rw [signed, found] at refused
          cases refused
          rw [resolve_refused found]
      | ok connection =>
          rw [signed, found] at refused
          cases refused

theorem action_refused {error : GatewayError} (refused : task.admission gateway = .error error)
    (world : σ) :
    (task.operation : Operation (StateM σ)).action (.start gateway) world =
      ((.error error, .start gateway), world) := by
  cases task with
  | placing order =>
      change (order.operation : Operation (StateM σ)).action (.start gateway) world = _
      rw [order.action_eq]
      exact GatewayM.bind_error (GatewayM.bind_error (prepare_refused refused world) _) _
  | reading lock =>
      have wanting : gateway.wallet = .error error := by
        cases found : gateway.wallet with
        | error other =>
            rw [admission, found] at refused
            cases refused
            rfl
        | ok connection =>
            rw [admission, found] at refused
            cases refused
      have unasked := resolve_refused wanting .publicLock lock world
      exact GatewayM.bind_error (GatewayM.bind_error unasked _) _

/-- A task that is admitted first learns the version, and then does what it does on it. -/
theorem action_admitted (admitted : task.admission gateway = .ok ()) (world : σ) :
    (task.operation : Operation (StateM σ)).action (.start gateway) world =
      (do
        let version ← Gateway.resolve (task.contract gateway.config.unlockAddress).1
          (task.contract gateway.config.unlockAddress).2
        task.onVersion gateway version : GatewayM (StateM σ) Answer) (.start gateway) world := by
  rw [GatewayM.bind_eq]
  cases task with
  | placing order =>
      cases signed : order.signer gateway with
      | error error =>
          rw [admission, signed] at admitted
          cases admitted
      | ok signer =>
          change (order.operation : Operation (StateM σ)).action (.start gateway) world = _
          rw [order.action_eq, Order.place, bind_assoc, GatewayM.bind_eq, order.prepare_eq, signed]
          dsimp only [contract, onVersion]
          rcases Gateway.resolve (order.contract gateway.config.unlockAddress).1
            (order.contract gateway.config.unlockAddress).2 (.start gateway) world with
            ⟨⟨error | version, after⟩, later⟩
          · rfl
          · dsimp only
            rw [signed, GatewayM.bind_eq, Gateway.require_eq]
            rfl
  | reading lock =>
      change (do return .snapshot (← Gateway.getLock lock) : GatewayM (StateM σ) Answer)
        (.start gateway) world = _
      rw [Gateway.getLock, bind_assoc, GatewayM.bind_eq]
      dsimp only [contract, onVersion]
      rcases Gateway.resolve .publicLock lock (.start gateway) world with
        ⟨⟨error | version, after⟩, later⟩
      · rfl
      · simp only [bind_assoc, pure_bind]

end ContractTask

namespace Operation

/-- What an operation does on a contract, if it does something on one. -/
def task? : Operation m → Option ContractTask
  | createLock parameters => some (.placing (.createLock parameters))
  | purchaseKey parameters => some (.placing (.purchaseKey parameters))
  | withdrawFromLock parameters => some (.placing (.withdraw parameters))
  | partialWithdrawFromLock parameters => some (.placing (.partialWithdraw parameters))
  | updateKeyPrice parameters => some (.placing (.updateKeyPrice parameters))
  | getLock lock => some (.reading lock)
  | connect _ | reconnect _ | getAccount | isUnlockContractDeployed | signData _ _
  | signDataPersonal _ _ | refreshTransaction _ => none

theorem eq_of_task? {operation : Operation m} {task : ContractTask}
    (needed : operation.task? = some task) : operation = task.operation := by
  cases operation <;> cases needed <;> rfl

theorem action_ignores (operation : Operation (StateM σ)) (unneeded : operation.task? = none)
    (stays : operation.endpoint? = none) : GatewayM.IgnoresVersions operation.action := by
  have unversioned : operation.scope.versions = false := by
    cases operation with
    | createLock | purchaseKey | withdrawFromLock | partialWithdrawFromLock | updateKeyPrice
    | getLock => cases unneeded
    | _ => rfl
  exact .of_composed unversioned (operation.action_composed stays)

/-- An attempt to connect forgets every version first, and learns none. -/
theorem connect_forgets (operation : Operation (StateM σ))
    (connects : operation.endpoint?.isSome = true) (gateway : Gateway (StateM σ)) (world : σ) :
    (operation.action (.start gateway) world).1.2.gateway.versions = .empty ∧
      ∀ versions, operation.action (.start { gateway with versions }) world =
        operation.action (.start gateway) world := by
  have forgets (endpoint : Endpoint (StateM σ)) :
      ((do return .walletInfo (← Gateway.connect endpoint) : GatewayM (StateM σ) Answer)
        (.start gateway) world).1.2.gateway.versions = .empty := by
    have ignores : GatewayM.IgnoresVersions (do
        let info ← Gateway.openConnection endpoint
        Gateway.greet info : GatewayM (StateM σ) WalletInfo) :=
      .bind (.openConnection endpoint) fun info => .of_composed rfl (.greet info)
    have learns := ignores.bind fun info => .pure (.walletInfo info : Answer)
    exact learns.versions_eq (.start gateway.disconnected) world
  cases operation with
  | connect endpoint => exact ⟨forgets endpoint, fun _ => rfl⟩
  | reconnect endpoint => exact ⟨forgets endpoint, fun _ => rfl⟩
  | _ => cases connects

end Operation

/-! ## Resolutions -/

/-- What a version turned out to be, and what was asked for it. -/
structure Resolution where
  outcome : Except GatewayError ContractVersion
  calls : List (String × Json)

def codeAsked (address : Address) : String × Json :=
  ("eth_getCode", .list (codeParams address))

def versionAsked (kind : ContractKind) (address : Address) : String × Json :=
  ("eth_call", .list (versionProbe kind address).params)

def Session.calls (session : Session m) : List (String × Json) :=
  session.issued.map fun issued => (issued.request.method, issued.request.params)

/-- Whatever is learned of a contract is put down for it alone. -/
theorem VersionRegistry.learned_ok {registry versions : VersionRegistry} {kind : ContractKind}
    {address : Address} {outcome : Except GatewayError Word} {version : ContractVersion}
    (learned : registry.learned kind address outcome = .ok (version, versions)) :
    versions = registry.pin kind address version := by
  rcases Outcome.bind_eq_ok_iff.mp learned with ⟨number, _, learned⟩
  rcases Outcome.bind_eq_ok_iff.mp learned with ⟨found, _, learned⟩
  cases learned
  rfl

/-- Without code there is nothing to probe. -/
theorem Connection.answer_undeployed (connection : Connection (StateM σ))
    (undelivered : List (Delivery (StateM σ))) {registry : VersionRegistry}
    {kind : ContractKind} {address : Address} (fresh : registry.cached? kind address = none)
    {world : σ}
    (undeployed : ∀ code, (connection.codeCall undelivered address world).1.1.result = .ok code →
      isContractCode code = false) :
    connection.answer undelivered (registry.resolve kind address) world =
      (((connection.codeCall undelivered address world).1.1.result >>= fun _ =>
          .error (.validation (.noContract address)),
        (connection.codeCall undelivered address world).1.2),
        (connection.codeCall undelivered address world).2) := by
  unfold codeCall at undeployed ⊢
  change Query.runWith connection.backend.caller (registry.resolve kind address)
    (.start connection.numbered undelivered) world = _
  rw [VersionRegistry.resolve_fresh fresh, Query.runWith_call]
  dsimp only
  cases replied : (connection.backend.caller.call "eth_getCode" (.list (codeParams address))
    (.start connection.numbered undelivered) world).1.1.result with
  | error error => rfl
  | ok code =>
      simp only [undeployed code replied, Bool.false_eq_true, if_false]
      rfl

/-- The call for the code is sent at once. -/
theorem Connection.codeCall_calls (connection : Connection (StateM σ))
    (undelivered : List (Delivery (StateM σ))) (address : Address) (world : σ) :
    (connection.codeCall undelivered address world).1.2.sent.map
      (fun request => (request.method, request.params)) = [codeAsked address] :=
  congrArg (List.map _) (connection.backend.call_sent (codeParams address)
    (by decide : "eth_getCode" ≠ "") (.start connection.numbered undelivered) world)

/-- Behind the code of a contract that is not known comes its version. -/
theorem Connection.probed_calls (connection : Connection (StateM σ))
    (undelivered : List (Delivery (StateM σ))) {registry : VersionRegistry}
    {kind : ContractKind} {address : Address} (fresh : registry.cached? kind address = none)
    {world : σ} {code : Json}
    (found : (connection.codeCall undelivered address world).1.1.result = .ok code)
    (isCode : isContractCode code = true) :
    (connection.answer undelivered (registry.resolve kind address) world).1.2.sent.map
      (fun request => (request.method, request.params)) =
        [codeAsked address, versionAsked kind address] := by
  have versionSent := connection.backend.call_sent (versionProbe kind address).params
    (by decide : "eth_call" ≠ "") (connection.codeCall undelivered address world).1.2
    (connection.codeCall undelivered address world).2
  rw [connection.answer_resolve undelivered fresh found isCode]
  dsimp only
  rw [versionSent, List.map_append, connection.codeCall_calls]
  rfl

/-- A contract that is not known takes the call for its code, and the probe if it has some. -/
theorem Connection.answer_fresh (connection : Connection (StateM σ))
    (undelivered : List (Delivery (StateM σ))) {registry : VersionRegistry}
    {kind : ContractKind} {address : Address} (fresh : registry.cached? kind address = none)
    (world : σ) :
    let answered := connection.answer undelivered (registry.resolve kind address) world
    let calls := answered.1.2.sent.map fun request => (request.method, request.params)
    (∃ error, answered.1.1 = .error error ∧
      (calls = [codeAsked address] ∨ calls = [codeAsked address, versionAsked kind address])) ∨
    ∃ version, answered.1.1 = .ok (version, registry.pin kind address version) ∧
      calls = [codeAsked address, versionAsked kind address] := by
  let called := connection.codeCall undelivered address world
  by_cases deployed : ∃ code, called.1.1.result = .ok code ∧ isContractCode code = true
  · rcases deployed with ⟨code, found, isCode⟩
    have calls := connection.probed_calls undelivered fresh found isCode
    rw [connection.answer_resolve undelivered fresh found isCode] at calls ⊢
    dsimp only at calls ⊢
    rw [calls]
    cases learned : registry.learned kind address ((versionProbe kind address).read
      (connection.backend.caller.call "eth_call" (.list (versionProbe kind address).params)
        called.1.2 called.2).1.1) with
    | error error => exact .inl ⟨error, rfl, .inr rfl⟩
    | ok found =>
        rcases found with ⟨version, versions⟩
        cases VersionRegistry.learned_ok learned
        exact .inr ⟨version, rfl, rfl⟩
  · have undeployed (code : Json) (found : called.1.1.result = .ok code) :
        isContractCode code = false := by
      rw [Bool.eq_false_iff]
      exact fun isCode => deployed ⟨code, found, isCode⟩
    have calls := connection.codeCall_calls undelivered address world
    rw [connection.answer_undeployed undelivered fresh undeployed]
    cases called.1.1.result with
    | error error => exact .inl ⟨error, rfl, .inl calls⟩
    | ok code => exact .inl ⟨_, rfl, .inl calls⟩

/-- All the calls of an action that puts a single query. -/
theorem Session.calls_answered (gateway : Gateway m) (connection : Connection m)
    (traffic : Traffic m) :
    ((Session.start gateway).answered connection traffic).calls =
      traffic.sent.map fun request => (request.method, request.params) := by
  simp [calls, answered, record, setConnection, start, Function.comp_def]

namespace Gateway

variable {gateway : Gateway (StateM σ)} {connection : Connection (StateM σ)}
  {kind : ContractKind} {address : Address}

/-- A version that is known is there without a word to the node. -/
theorem resolve_known (connected : gateway.wallet = .ok connection) {version : ContractVersion}
    (known : gateway.versions.cached? kind address = some version) (world : σ) :
    resolve kind address (.start gateway) world = ((.ok version, .start gateway), world) := by
  have usable : (Session.start gateway).gateway.wallet = .ok connection := connected
  have found : (Session.start gateway).gateway.versions.resolve kind address =
      .done (.ok (version, gateway.versions)) := by
    change gateway.versions.resolve kind address = _
    unfold VersionRegistry.resolve
    rw [known]
    rfl
  have connection_eq := connection_of_wallet connected
  rw [resolve_connected usable, found]
  cases gateway
  cases connection_eq
  rfl

/-- A version that is not known is asked for, and is put down if it is learned. -/
theorem resolve_unknown (connected : gateway.wallet = .ok connection)
    (unknown : gateway.versions.cached? kind address = none) (world : σ) :
    let resolved := resolve kind address (.start gateway) world
    (∃ error, resolved.1.1 = .error error ∧ resolved.1.2.gateway.versions = gateway.versions ∧
      (resolved.1.2.calls = [codeAsked address] ∨
        resolved.1.2.calls = [codeAsked address, versionAsked kind address])) ∨
    ∃ version, resolved.1.1 = .ok version ∧
      resolved.1.2.gateway.versions = gateway.versions.pin kind address version ∧
      resolved.1.2.calls = [codeAsked address, versionAsked kind address] := by
  have usable : (Session.start gateway).gateway.wallet = .ok connection := connected
  have fresh := connection.answer_fresh (Session.start gateway).gateway.undelivered
    (show (Session.start gateway).gateway.versions.cached? kind address = none from unknown) world
  rw [resolve_connected usable]
  revert fresh
  rcases connection.answer (Session.start gateway).gateway.undelivered
    ((Session.start gateway).gateway.versions.resolve kind address) world with
    ⟨⟨error | ⟨version, versions⟩, traffic⟩, later⟩
  · rintro (⟨_, ⟨⟩, calls⟩ | ⟨_, ⟨⟩, _⟩)
    rw [← Session.calls_answered gateway connection traffic] at calls
    exact .inl ⟨error, rfl, rfl, calls⟩
  · rintro (⟨_, ⟨⟩, _⟩ | ⟨_, ⟨⟩, calls⟩)
    exact .inr ⟨version, rfl, rfl, (Session.calls_answered gateway connection traffic).trans calls⟩

end Gateway

/-! ## Steps -/

namespace Step

/-- The contract whose version is asked for in a step, if the step gets that far. -/
def contract? (step : Step σ) : Option (ContractKind × Address) :=
  match step.operation.task? with
  | none => none
  | some task =>
      match task.admission step.gateway with
      | .error _ => none
      | .ok () => some (task.contract step.gateway.config.unlockAddress)

/-- The step as far as it asks for the version of a contract. -/
def resolving (step : Step σ) (contract : ContractKind × Address) :
    (Except GatewayError ContractVersion × Session (StateM σ)) × σ :=
  Gateway.resolve contract.1 contract.2 (.start step.gateway) step.world

def resolution (step : Step σ) (contract : ContractKind × Address) : Resolution where
  outcome := (step.resolving contract).1.1
  calls := (step.resolving contract).1.2.calls

def known? (step : Step σ) (contract : ContractKind × Address) : Option ContractVersion :=
  step.gateway.versions.cached? contract.1 contract.2

/-- What a step comes to, with the session and the world at its end. -/
def acted (step : Step σ) : (Except GatewayError Answer × Session (StateM σ)) × σ :=
  step.operation.action (.start step.gateway) step.world

/-- What a step makes of the versions that are known, and what it adds to them. -/
structure HeedsVersions (step : Step σ) : Prop where
  connecting (connects : step.operation.endpoint?.isSome = true) :
    step.next.versions = .empty ∧ ∀ versions,
      acted { step with gateway := { step.gateway with versions } } = step.acted
  unneeded (stays : step.operation.endpoint? = none) (unneeded : step.operation.task? = none) :
    GatewayM.IgnoresVersions step.operation.action
  refused {task : ContractTask} {error : GatewayError}
    (needed : step.operation.task? = some task)
    (refused : task.admission step.gateway = .error error) :
    step.acted = ((.error error, .start step.gateway), step.world)
  failed {contract : ContractKind × Address} {error : GatewayError}
    (asked : step.contract? = some contract)
    (fails : (step.resolution contract).outcome = .error error) :
    step.acted = ((.error error, (step.resolving contract).1.2), (step.resolving contract).2) ∧
      step.turn.events = [] ∧ step.next.versions = step.gateway.versions
  resolved {task : ContractTask} {contract : ContractKind × Address} {version : ContractVersion}
    (needed : step.operation.task? = some task) (asked : step.contract? = some contract)
    (resolves : (step.resolution contract).outcome = .ok version) :
    step.acted = task.onVersion step.gateway version (step.resolving contract).1.2
        (step.resolving contract).2 ∧
      ∀ kind address, step.next.versions.cached? kind address =
        if (kind, address) = contract then some version
        else step.gateway.versions.cached? kind address
  known {task : ContractTask} {contract : ContractKind × Address} {version : ContractVersion}
    (needed : step.operation.task? = some task) (asked : step.contract? = some contract)
    (known : step.known? contract = some version) :
    step.resolution contract = ⟨.ok version, []⟩ ∧
      step.acted = task.onVersion step.gateway version (.start step.gateway) step.world ∧
      step.next.versions = step.gateway.versions

variable {step : Step σ} {contract : ContractKind × Address}

theorem task_of_contract? (asked : step.contract? = some contract) :
    ∃ task, step.operation.task? = some task ∧ task.admission step.gateway = .ok () ∧
      task.contract step.gateway.config.unlockAddress = contract := by
  unfold contract? at asked
  split at asked
  · cases asked
  · rename_i task needed
    split at asked
    · cases asked
    · rename_i admitted
      exact ⟨task, needed, admitted, Option.some.inj asked⟩

/-- What a contract's version is before the step, and what is put down in it. -/
theorem resolving_cases (asked : step.contract? = some contract) :
    (∃ version, step.known? contract = some version ∧
      step.resolving contract = ((.ok version, .start step.gateway), step.world)) ∨
    (step.known? contract = none ∧ ∃ error, (step.resolving contract).1.1 = .error error ∧
      (step.resolving contract).1.2.gateway.versions = step.gateway.versions ∧
      ((step.resolving contract).1.2.calls = [codeAsked contract.2] ∨
        (step.resolving contract).1.2.calls =
          [codeAsked contract.2, versionAsked contract.1 contract.2])) ∨
    (step.known? contract = none ∧ ∃ version, (step.resolving contract).1.1 = .ok version ∧
      (step.resolving contract).1.2.gateway.versions =
        step.gateway.versions.pin contract.1 contract.2 version ∧
      (step.resolving contract).1.2.calls =
        [codeAsked contract.2, versionAsked contract.1 contract.2]) := by
  rcases task_of_contract? asked with ⟨task, needed, admitted, named⟩
  rcases task.wallet_of_admission admitted with ⟨connection, connected⟩
  cases known : step.known? contract with
  | some version =>
      exact .inl ⟨version, rfl, Gateway.resolve_known connected known step.world⟩
  | none =>
      rcases Gateway.resolve_unknown connected known step.world with fails | resolves
      · exact .inr (.inl ⟨rfl, fails⟩)
      · exact .inr (.inr ⟨rfl, resolves⟩)

/-- A step that asks for a version goes on if it learns it, and ends if it does not. -/
theorem acted_eq {task : ContractTask} (needed : step.operation.task? = some task)
    (asked : step.contract? = some contract) :
    step.acted = match step.resolving contract with
      | ((.ok version, after), later) => task.onVersion step.gateway version after later
      | ((.error error, after), later) => ((.error error, after), later) := by
  rcases task_of_contract? asked with ⟨other, same, admitted, named⟩
  cases needed.symm.trans same
  unfold acted resolving
  rw [Operation.eq_of_task? needed, task.action_admitted admitted, named, GatewayM.bind_eq]
  rcases Gateway.resolve contract.1 contract.2 (.start step.gateway) step.world with
    ⟨⟨error | version, after⟩, later⟩
  · rfl
  · rfl

theorem acted_learned {task : ContractTask} {version : ContractVersion}
    (needed : step.operation.task? = some task) (asked : step.contract? = some contract)
    (learned : (step.resolving contract).1.1 = .ok version) :
    step.acted = task.onVersion step.gateway version (step.resolving contract).1.2
      (step.resolving contract).2 := by
  rw [acted_eq needed asked]
  revert learned
  rcases step.resolving contract with ⟨⟨error | found, after⟩, later⟩
  · rintro ⟨⟩
  · rintro ⟨⟩
    rfl

theorem acted_failed {error : GatewayError} (asked : step.contract? = some contract)
    (fails : (step.resolving contract).1.1 = .error error) :
    step.acted = ((.error error, (step.resolving contract).1.2), (step.resolving contract).2) := by
  rcases task_of_contract? asked with ⟨task, needed, _⟩
  rw [acted_eq needed asked]
  revert fails
  rcases step.resolving contract with ⟨⟨cause | found, after⟩, later⟩
  · rintro ⟨⟩
    rfl
  · rintro ⟨⟩

/-- What was put down when the version was learned stays till the end of the step. -/
theorem next_versions (asked : step.contract? = some contract) :
    step.next.versions = (step.resolving contract).1.2.gateway.versions := by
  rcases task_of_contract? asked with ⟨task, needed, _⟩
  change step.acted.1.2.gateway.versions = _
  cases learned : (step.resolving contract).1.1 with
  | error error => rw [acted_failed asked learned]
  | ok version =>
      rw [acted_learned needed asked learned]
      exact (task.onVersion_ignores step.gateway version).versions_eq _ _

theorem heedsVersions (step : Step σ) : step.HeedsVersions where
  connecting connects := step.operation.connect_forgets connects step.gateway step.world
  unneeded stays unneeded := step.operation.action_ignores unneeded stays
  refused {task error} needed refused := by
    unfold acted
    rw [Operation.eq_of_task? needed]
    exact task.action_refused refused step.world
  failed {contract error} asked fails := by
    have ends := acted_failed asked fails
    refine ⟨ends, ?_, ?_⟩
    · change step.acted.1.2.events = []
      rw [ends]
      exact (Gateway.resolve_asks contract.1 contract.2 (.start step.gateway) step.world).events
    · rw [next_versions asked]
      rcases resolving_cases asked with ⟨version, _, known⟩ | ⟨_, _, _, same, _⟩ |
        ⟨_, version, learned, _⟩
      · cases (congrArg (·.1.1) known).symm.trans fails
      · exact same
      · cases learned.symm.trans fails
  resolved {task contract version} needed asked resolves := by
    refine ⟨acted_learned needed asked resolves, ?_⟩
    intro kind address
    rw [next_versions asked]
    rcases resolving_cases asked with ⟨found, known, settled⟩ | ⟨_, _, fails, _⟩ |
      ⟨_, found, learned, pinned, _⟩
    · cases (congrArg (·.1.1) settled).symm.trans resolves
      rw [settled]
      split
      · rename_i same
        subst same
        exact known
      · rfl
    · cases fails.symm.trans resolves
    · cases learned.symm.trans resolves
      rw [pinned, VersionRegistry.cached?_pin]
      simp only [Prod.ext_iff]
  known {task contract version} needed asked known := by
    rcases resolving_cases asked with ⟨found, same, settled⟩ | ⟨unknown, _⟩ | ⟨unknown, _⟩
    · cases known.symm.trans same
      have learned : (step.resolving contract).1.1 = .ok version := by rw [settled]
      refine ⟨?_, ?_, ?_⟩
      · unfold resolution
        rw [settled]
        rfl
      · rw [acted_learned needed asked learned, settled]
      · rw [next_versions asked, settled]
        rfl
    · cases unknown.symm.trans known
    · cases unknown.symm.trans known

end Step

/-! ## Histories -/

/-- The resolutions of a contract over one connection, with the latest first, and what is
known of the contract after them. -/
inductive Learned (contract : ContractKind × Address) :
    List Resolution → Option ContractVersion → Prop
  | unknown : Learned contract [] none
  | failed {earlier : List Resolution} {error : GatewayError} {calls : List (String × Json)}
      (before : Learned contract earlier none)
      (asked : calls = [codeAsked contract.2] ∨
        calls = [codeAsked contract.2, versionAsked contract.1 contract.2]) :
      Learned contract (⟨.error error, calls⟩ :: earlier) none
  | first {earlier : List Resolution} {version : ContractVersion}
      (before : Learned contract earlier none) :
      Learned contract
        (⟨.ok version, [codeAsked contract.2, versionAsked contract.1 contract.2]⟩ :: earlier)
        (some version)
  | again {earlier : List Resolution} {version : ContractVersion}
      (before : Learned contract earlier (some version)) :
      Learned contract (⟨.ok version, []⟩ :: earlier) (some version)

/-- The resolution of a contract in a step, if there is one. -/
def Step.resolution? (contract : ContractKind × Address) (step : Step σ) : Option Resolution :=
  if step.contract? = some contract then some (step.resolution contract) else none

/-- The resolutions of a contract since the latest attempt to connect. -/
def resolutions (contract : ContractKind × Address) (history : List (Step σ)) :
    List Resolution :=
  (history.takeWhile (·.operation.endpoint?.isNone)).filterMap (·.resolution? contract)

theorem Learned.step {contract : ContractKind × Address} {step : Step σ}
    {earlier : List Resolution} (learned : Learned contract earlier (step.known? contract))
    (asked : step.contract? = some contract) :
    Learned contract (step.resolution contract :: earlier)
      (step.next.versions.cached? contract.1 contract.2) := by
  rw [Step.next_versions asked]
  unfold Step.resolution
  rcases Step.resolving_cases asked with ⟨version, known, settled⟩ |
    ⟨unknown, error, fails, same, calls⟩ | ⟨unknown, version, resolves, pinned, calls⟩
  · rw [known] at learned
    have kept : (Session.start step.gateway).gateway.versions.cached? contract.1 contract.2 =
        some version := known
    rw [settled, kept]
    exact .again learned
  · rw [unknown] at learned
    have kept : step.gateway.versions.cached? contract.1 contract.2 = none := unknown
    rw [fails, same, kept]
    exact .failed learned calls
  · rw [unknown] at learned
    rw [resolves, pinned, calls, VersionRegistry.cached?_pin, if_pos ⟨rfl, rfl⟩]
    exact .first learned

/-- Whatever version a contract was used with is the one that is known of it. -/
theorem Learned.used {contract : ContractKind × Address} {earlier : List Resolution}
    {known : Option ContractVersion} (learned : Learned contract earlier known)
    {resolution : Resolution} (member : resolution ∈ earlier) {version : ContractVersion}
    (resolved : resolution.outcome = .ok version) : known = some version := by
  induction learned with
  | unknown => cases member
  | failed before asked induction =>
      rcases List.mem_cons.mp member with equal | member
      · subst equal
        cases resolved
      · cases induction member
  | first before induction =>
      rcases List.mem_cons.mp member with equal | member
      · subst equal
        cases resolved
        rfl
      · cases induction member
  | again before induction =>
      rcases List.mem_cons.mp member with equal | member
      · subst equal
        cases resolved
        rfl
      · exact induction member

/-- What is known of other contracts does not change. -/
theorem Step.cached?_other {step : Step σ} {contract : ContractKind × Address}
    (stays : step.operation.endpoint? = none) (other : step.contract? ≠ some contract) :
    step.next.versions.cached? contract.1 contract.2 = step.known? contract := by
  cases asked : step.contract? with
  | some found =>
      rw [Step.next_versions asked]
      rcases Step.resolving_cases asked with ⟨version, known, settled⟩ |
        ⟨_, error, _, same, _⟩ | ⟨_, version, _, pinned, _⟩
      · rw [settled]
        rfl
      · rw [same]
        rfl
      · have different : ¬ (contract.1 = found.1 ∧ contract.2 = found.2) := by
          rintro ⟨kind, address⟩
          exact other (asked.trans (congrArg some (Prod.ext kind.symm address.symm)))
        rw [pinned, VersionRegistry.cached?_pin, if_neg different]
        rfl
  | none =>
      -- No version is asked for: nothing needs one, or what needs one is refused before.
      cases needed : step.operation.task? with
      | none =>
          have ignores := step.heedsVersions.unneeded stays needed
          have same : step.next.versions = step.gateway.versions :=
            ignores.versions_eq (.start step.gateway) step.world
          rw [same]
          rfl
      | some task =>
          cases admitted : task.admission step.gateway with
          | ok => simp [Step.contract?, needed, admitted] at asked
          | error error =>
              have refused := step.heedsVersions.refused needed admitted
              change step.acted.1.2.gateway.versions.cached? _ _ = _
              rw [refused]
              rfl

/-- A wallet on the main network that answers calls to contracts with what the world holds. -/
def versionTeller : Wallet (StateM Json) :=
  .plain fun request => do
    let told ← get
    return .ok (.success request.id (
      if request.method = "net_version" then .string "1"
      else if request.method = "eth_getCode" then .string "0x6080"
      else told))

namespace Step

def arriving : Step Json where
  operation := .connect (.direct versionTeller)
  gateway := .new .standard
  world := .null

def learning : Step Json where
  operation := .withdrawFromLock
    { lock := .zero, account := .zero, currency := none, amount := none, decimals := 18 }
  gateway := arriving.next
  world := .string "0x0000000000000000000000000000000000000000000000000000000000000003"

end Step

namespace Run

variable {config : Config} {history : List (Step σ)} {gateway : Gateway (StateM σ)}

theorem learned (run : Run config history gateway) (contract : ContractKind × Address) :
    Learned contract (resolutions contract history)
      (gateway.versions.cached? contract.1 contract.2) := by
  induction run with
  | new => exact .unknown
  | @step history gateway run goesOn operation world induction =>
      let step : Step σ := ⟨operation, gateway, world⟩
      change Learned contract (resolutions contract (step :: history))
        (step.next.versions.cached? contract.1 contract.2)
      -- Connecting drops the resolutions so far together with all that is known from them.
      cases connects : operation.endpoint? with
      | some endpoint =>
          have isConnecting : step.operation.endpoint?.isSome = true := by
            change operation.endpoint?.isSome = true
            rw [connects]
            rfl
          have forgotten := step.heedsVersions.connecting isConnecting
          have dropped : resolutions contract (step :: history) = [] := by
            simp [resolutions, step, connects]
          rw [dropped, forgotten.1]
          exact .unknown
      | none =>
          by_cases asked : step.contract? = some contract
          · have resolved : resolutions contract (step :: history) =
                step.resolution contract :: resolutions contract history := by
              simp [resolutions, step, connects, Step.resolution?, asked]
            rw [resolved]
            exact Learned.step induction asked
          · have unresolved : resolutions contract (step :: history) =
                resolutions contract history := by
              simp [resolutions, step, connects, Step.resolution?, asked]
            rw [unresolved, Step.cached?_other connects asked]
            exact induction

/-- Over every history, each contract is asked for its version until it is first learned on
the latest connection, and not any more after that; whatever version it was used with since
is the one that is known of it. And a step uses the version that is known of its contract,
or the one that it then learns, which it puts down for that contract alone; a failure adds
nothing, and an attempt to connect leaves nothing. -/
theorem one_version (run : Run config history gateway) :
    (∀ contract : ContractKind × Address,
      Learned contract (resolutions contract history)
        (gateway.versions.cached? contract.1 contract.2) ∧
      ∀ resolution ∈ resolutions contract history, ∀ version, resolution.outcome = .ok version →
        gateway.versions.cached? contract.1 contract.2 = some version) ∧
    ∀ (operation : Operation (StateM σ)) (world : σ),
      (Step.mk operation gateway world).HeedsVersions :=
  ⟨fun contract => ⟨run.learned contract, fun _ member _ => (run.learned contract).used member⟩,
    fun _ _ => Step.heedsVersions _⟩

/-- The withdrawal learns that the lock is of version ten, whatever the node tells later. -/
theorem learning_one_version :
    Run .standard [Step.learning, Step.arriving] Step.learning.next ∧
      Step.learning.next.versions.cached? .publicLock .zero = some .v10 ∧
      (∀ contract : ContractKind × Address,
        Learned contract (resolutions contract [Step.learning, Step.arriving])
          (Step.learning.next.versions.cached? contract.1 contract.2) ∧
        ∀ resolution ∈ resolutions contract [Step.learning, Step.arriving], ∀ version,
          resolution.outcome = .ok version →
            Step.learning.next.versions.cached? contract.1 contract.2 = some version) ∧
      ∀ (operation : Operation (StateM Json)) (world : Json),
        (Step.mk operation Step.learning.next world).HeedsVersions := by
  have run : Run .standard [Step.learning, Step.arriving] Step.learning.next :=
    .step (.step .new rfl Step.arriving.operation Step.arriving.world) rfl
      Step.learning.operation Step.learning.world
  exact ⟨run, rfl, one_version run⟩

end Run

end LockGateway
