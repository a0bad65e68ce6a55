import LockGateway.Proofs.Gateway.OneVersion
import LockGateway.Proofs.Gateway.VersionDetection

/-! Whether the lock factory is deployed. The gateway tells it when it is asked, and finds it out
again when it needs the factory's version, by the same answer of the node. The two agree but on
one spelling: code that is written as the number zero is no code for the check, and still takes a
probe for the version. -/

namespace LockGateway

variable {σ : Type}

/-! ## Answers -/

theorem isDeployedCode_iff {code : Json} :
    isDeployedCode code = true ↔ code.IsContractCode ∧ code ≠ .string "0x0" := by
  rw [isDeployedCode, Bool.and_eq_true, isContractCode_iff, bne_iff_ne]
  cases code with
  | string text => simp [Json.string?]
  | null | boolean | integer | float | list | object => simp [Json.string?]

/-! ## The two checks -/

namespace Gateway

/-- What the gateway tells when it is asked whether the lock factory is deployed. -/
def factoryChecked (gateway : Gateway (StateM σ)) (world : σ) : Except GatewayError Bool :=
  (isUnlockContractDeployed (.start gateway) world).1.1

/-- What the gateway finds out when it needs the version of the lock factory. -/
def factoryResolved (gateway : Gateway (StateM σ)) (world : σ) : Resolution where
  outcome := (resolve .unlock gateway.config.unlockAddress (.start gateway) world).1.1
  calls := (resolve .unlock gateway.config.unlockAddress (.start gateway) world).1.2.calls

/-- The version of the lock factory is not known, and the node answers the question for its code. -/
structure FactoryAsked (gateway : Gateway (StateM σ)) (world : σ)
    (connection : Connection (StateM σ)) (code : Json) : Prop where
  connected : gateway.wallet = .ok connection
  fresh : gateway.versions.cached? .unlock gateway.config.unlockAddress = none
  answered :
    (connection.codeCall gateway.undelivered gateway.config.unlockAddress world).1.1.result =
      .ok code

end Gateway

/-- The resolution ends with the answer for the code, since there is no contract. A probe that
fails in the same words is a failure of the node. -/
structure Resolution.FindsNothing (resolution : Resolution) (address : Address) : Prop where
  refused : resolution.outcome = .error (.validation (.noContract address))
  unprobed : resolution.calls = [codeAsked address]

/-- The resolution goes on from the code to the version. -/
def Resolution.Probes (resolution : Resolution) (kind : ContractKind) (address : Address) : Prop :=
  resolution.calls = [codeAsked address, versionAsked kind address]

/-- What is told of the lock factory is what is found out about it. -/
structure Gateway.ChecksAgree (gateway : Gateway (StateM σ)) (world : σ) : Prop where
  missing : gateway.factoryChecked world = .ok false ↔
    (gateway.factoryResolved world).FindsNothing gateway.config.unlockAddress
  deployed : gateway.factoryChecked world = .ok true ↔
    (gateway.factoryResolved world).Probes .unlock gateway.config.unlockAddress

/-! ## What they make of an answer -/

theorem Resolution.FindsNothing.not_probes {resolution : Resolution} {kind : ContractKind}
    {address : Address} (nothing : resolution.FindsNothing address) :
    ¬ resolution.Probes kind address := by
  intro probes
  have same := nothing.unprobed.symm.trans probes
  cases same

namespace Gateway.FactoryAsked

variable {gateway : Gateway (StateM σ)} {world : σ} {connection : Connection (StateM σ)}
  {code : Json}

theorem checked_eq (asked : gateway.FactoryAsked world connection code) :
    gateway.factoryChecked world = .ok (isDeployedCode code) := by
  have usable : (Session.start gateway).gateway.wallet = .ok connection := asked.connected
  have answer : (connection.answer (Session.start gateway).gateway.undelivered
      (.code (Session.start gateway).gateway.config.unlockAddress) world).1.1 = .ok code :=
    asked.answered
  rw [factoryChecked, isUnlockContractDeployed, current_bind, GatewayM.return_eq,
    ask_connected usable]
  dsimp only
  rw [answer]
  rfl

theorem resolved_eq (asked : gateway.FactoryAsked world connection code) :
    let answered := connection.answer gateway.undelivered
      (gateway.versions.resolve .unlock gateway.config.unlockAddress) world
    gateway.factoryResolved world =
      { outcome := answered.1.1.map (·.1)
        calls := answered.1.2.sent.map fun request => (request.method, request.params) } := by
  have usable : (Session.start gateway).gateway.wallet = .ok connection := asked.connected
  rw [factoryResolved, resolve_connected usable world]
  dsimp only [Session.start]
  rcases connection.answer gateway.undelivered
    (gateway.versions.resolve .unlock gateway.config.unlockAddress) world with
    ⟨⟨error | ⟨version, versions⟩, traffic⟩, later⟩
  · exact congrArg (Resolution.mk _) (Session.calls_answered gateway connection traffic)
  · exact congrArg (Resolution.mk _) (Session.calls_answered gateway connection traffic)

/-- Without code the resolution ends there. -/
theorem findsNothing (asked : gateway.FactoryAsked world connection code)
    (noCode : isContractCode code = false) :
    (gateway.factoryResolved world).FindsNothing gateway.config.unlockAddress := by
  have undeployed (other : Json)
      (found : (connection.codeCall gateway.undelivered gateway.config.unlockAddress
        world).1.1.result = .ok other) : isContractCode other = false := by
    rw [asked.answered] at found
    rw [← Except.ok.inj found]
    exact noCode
  have answer := connection.answer_undeployed gateway.undelivered asked.fresh undeployed
  rw [asked.resolved_eq, answer, asked.answered]
  exact ⟨rfl, connection.codeCall_calls gateway.undelivered gateway.config.unlockAddress world⟩

/-- With code it goes on to the version. -/
theorem probes (asked : gateway.FactoryAsked world connection code)
    (isCode : isContractCode code = true) :
    (gateway.factoryResolved world).Probes .unlock gateway.config.unlockAddress := by
  rw [asked.resolved_eq]
  exact connection.probed_calls gateway.undelivered asked.fresh asked.answered isCode

theorem findsNothing_iff (asked : gateway.FactoryAsked world connection code) :
    (gateway.factoryResolved world).FindsNothing gateway.config.unlockAddress ↔
      ¬ code.IsContractCode := by
  rw [← isContractCode_iff, Bool.not_eq_true]
  constructor
  · intro nothing
    rw [Bool.eq_false_iff]
    exact fun isCode => nothing.not_probes (asked.probes isCode)
  · exact asked.findsNothing

theorem probes_iff (asked : gateway.FactoryAsked world connection code) :
    (gateway.factoryResolved world).Probes .unlock gateway.config.unlockAddress ↔
      code.IsContractCode := by
  rw [← isContractCode_iff]
  constructor
  · intro probes
    rw [← Bool.not_eq_false]
    exact fun noCode => (asked.findsNothing noCode).not_probes probes
  · exact asked.probes

end Gateway.FactoryAsked

/-! ## Agreement -/

/-- What is told of the lock factory is what is found out about it, whatever the node answers for
its code, but for the number zero: that is told to be no code, and then probed for a version. -/
theorem Gateway.deployment_agrees_iff {gateway : Gateway (StateM σ)} {world : σ}
    {connection : Connection (StateM σ)} {code : Json}
    (asked : gateway.FactoryAsked world connection code) :
    (gateway.ChecksAgree world ↔ code ≠ .string "0x0") ∧
      (code = .string "0x0" → gateway.factoryChecked world = .ok false ∧
        (gateway.factoryResolved world).Probes .unlock gateway.config.unlockAddress) := by
  have zeroIsCode : (Json.string "0x0").IsContractCode := ⟨"0x0", rfl, by decide, by decide⟩
  have checked_iff (deployed : Bool) :
      gateway.factoryChecked world = .ok deployed ↔ isDeployedCode code = deployed := by
    rw [asked.checked_eq, Except.ok.injEq]
  have overlooked (zero : code = .string "0x0") :
      gateway.factoryChecked world = .ok false ∧
        (gateway.factoryResolved world).Probes .unlock gateway.config.unlockAddress := by
    constructor
    · rw [checked_iff, zero]
      rfl
    · rw [asked.probes_iff, zero]
      exact zeroIsCode
  refine ⟨⟨?_, ?_⟩, overlooked⟩
  · intro agree zero
    rcases overlooked zero with ⟨missing, probes⟩
    exact (agree.missing.mp missing).not_probes probes
  · intro other
    have same : isDeployedCode code = true ↔ code.IsContractCode := by
      rw [isDeployedCode_iff, and_iff_left other]
    constructor
    · rw [checked_iff, asked.findsNothing_iff, ← Bool.not_eq_true, same]
    · rw [checked_iff, asked.probes_iff, same]

theorem Gateway.mute_deployment_agrees :
    (Gateway.onto (.direct muteWallet)).FactoryAsked ()
        { backend := .direct muteWallet, flavor := .generic, generation := 1, numbered := 1 }
        (.string "0x6080") ∧
      ((Gateway.onto (.direct muteWallet)).ChecksAgree () ↔
          Json.string "0x6080" ≠ .string "0x0") ∧
      (Json.string "0x6080" = .string "0x0" →
        (Gateway.onto (.direct muteWallet)).factoryChecked () = .ok false ∧
          ((Gateway.onto (.direct muteWallet)).factoryResolved ()).Probes .unlock
            (Gateway.onto (.direct muteWallet)).config.unlockAddress) := by
  have asked : (Gateway.onto (.direct muteWallet)).FactoryAsked ()
      { backend := .direct muteWallet, flavor := .generic, generation := 1, numbered := 1 }
      (.string "0x6080") :=
    { connected := rfl
      fresh := rfl
      answered := rfl }
  exact ⟨asked, deployment_agrees_iff asked⟩

/-- A node that writes no code as the number zero. -/
def zeroCodeNode : NodeM Unit := fun request =>
  if request.method = "eth_getCode" then pure (.ok (.success request.id (.string "0x0")))
  else muteNode request

def zeroCodeWallet : Wallet (StateM Unit) := .plain zeroCodeNode

/-- The number zero is told to be no code, and taken for code. -/
theorem Gateway.deployment_disagrees_on_zero :
    ¬ ∀ (gateway : Gateway (StateM Unit)) (connection : Connection (StateM Unit)) (code : Json),
      gateway.FactoryAsked () connection code → gateway.ChecksAgree () := by
  intro agree
  have asked : (Gateway.onto (.direct zeroCodeWallet)).FactoryAsked ()
      { backend := .direct zeroCodeWallet, flavor := .generic, generation := 1, numbered := 1 }
      (.string "0x0") :=
    { connected := rfl
      fresh := rfl
      answered := rfl }
  have missing : (Gateway.onto (.direct zeroCodeWallet)).factoryChecked () = .ok false :=
    asked.checked_eq
  exact ((agree _ _ _ asked).missing.mp missing).not_probes (asked.probes rfl)

end LockGateway
