import LockGateway.Proofs.Connection.Fronting
import LockGateway.Proofs.Gateway.HandingIn

/-! The probe for the version of a contract, and what becomes of it when the node does
not answer. Over a wallet or a server the failure is passed on and nothing is learned.
A relay's host makes an error reply of it, and that reads as a contract of the first
version; so does a reply that is no envelope over any connection. -/

namespace LockGateway

variable {σ : Type}

/-! ## The two calls -/

def codeParams (address : Address) : List Json :=
  [.string address.checksumText, .string "latest"]

def versionProbe (kind : ContractKind) (address : Address) : Question Word :=
  .getter .uint256 address kind.versionGetter

/-- The version of a contract from the outcome of its probe. -/
def versionFound (outcome : Except GatewayError Word) : Except GatewayError ContractVersion := do
  (ContractVersion.ofNumber (← versionNumber outcome)).mapError .unsupportedVersion

/-- A version takes a call for the code of the contract and one for its number. -/
theorem detectVersion_eq (kind : ContractKind) (address : Address) :
    detectVersion kind address =
      .call "eth_getCode" (.list (codeParams address)) fun reply =>
        match reply.result with
        | .error error => .done (.error error)
        | .ok code =>
            if isContractCode code then
              .call "eth_call" (.list (versionProbe kind address).params) fun reply =>
                .done (versionFound ((versionProbe kind address).read reply))
            else .done (.error (.validation (.noContract address))) := by
  refine congrArg (Query.call "eth_getCode" (.list (codeParams address))) ?_
  funext reply
  dsimp only
  cases reply.result with
  | error error => rfl
  | ok code =>
      change (if isContractCode code then _ else _) = if isContractCode code then _ else _
      cases isContractCode code with
      | false => rfl
      | true =>
          refine congrArg (Query.call "eth_call" (.list (versionProbe kind address).params)) ?_
          funext probed
          exact Query.done_bind (versionNumber ((versionProbe kind address).read probed))
            fun number => (ContractVersion.ofNumber number).mapError .unsupportedVersion

namespace VersionRegistry

/-- What is learned of a contract from the outcome of its probe. -/
def learned (registry : VersionRegistry) (kind : ContractKind) (address : Address)
    (outcome : Except GatewayError Word) :
    Except GatewayError (ContractVersion × VersionRegistry) := do
  let number ← versionNumber outcome
  let version ← (ContractVersion.ofNumber number).mapError .unsupportedVersion
  return (version, registry.pin kind address version)

/-- A contract that is not known takes a call for its code and one for its version. -/
theorem resolve_fresh {registry : VersionRegistry} {kind : ContractKind} {address : Address}
    (fresh : registry.cached? kind address = none) :
    registry.resolve kind address =
      .call "eth_getCode" (.list (codeParams address)) fun reply =>
        match reply.result with
        | .error error => .done (.error error)
        | .ok code =>
            if isContractCode code then
              .call "eth_call" (.list (versionProbe kind address).params) fun reply =>
                .done (registry.learned kind address ((versionProbe kind address).read reply))
            else .done (.error (.validation (.noContract address))) := by
  unfold resolve
  rw [fresh]
  dsimp only
  rw [detectVersion_eq]
  refine congrArg (Query.call "eth_getCode" (.list (codeParams address))) ?_
  funext reply
  dsimp only
  cases reply.result with
  | error error => rfl
  | ok code =>
      dsimp only
      cases isContractCode code with
      | false => rfl
      | true =>
          refine congrArg (Query.call "eth_call" (.list (versionProbe kind address).params)) ?_
          funext probed
          refine (Query.done_bind (versionFound ((versionProbe kind address).read probed))
            fun version => .ok (version, registry.pin kind address version)).trans ?_
          rw [versionFound, bind_assoc]
          rfl

end VersionRegistry

/-- Failures of a call in which the node did not answer. -/
inductive Lost : GatewayError → Prop
  | network (cause : NetworkFault) : Lost (.transport (.network cause))
  | status (code : Nat) : Lost (.transport (.status code))
  | channelClosed : Lost (.transport .channelClosed)
  | idMismatch (expected : UInt64) (actual : Option UInt64) :
      Lost (.transport (.idMismatch expected actual))
  | noEnvelope (cause : Json.Fault) : Lost (.invalidResponse (.noEnvelope cause))

/-- A reply that is no envelope passes for the answer of an old contract. -/
def Lost.IsAnswer (error : GatewayError) : Prop :=
  ∃ cause, error = .invalidResponse (.noEnvelope cause)

theorem VersionRegistry.learned_lost {error : GatewayError} (lost : Lost error)
    (registry : VersionRegistry) (kind : ContractKind) (address : Address) :
    (Lost.IsAnswer error ∧
        registry.learned kind address (.error error) = .ok (.v0, registry.pin kind address .v0)) ∨
      (¬ Lost.IsAnswer error ∧ registry.learned kind address (.error error) = .error error) := by
  cases lost with
  | noEnvelope cause => exact .inl ⟨⟨cause, rfl⟩, rfl⟩
  | network | status | channelClosed | idMismatch =>
      refine .inr ⟨?_, rfl⟩
      rintro ⟨cause, equal⟩
      cases equal

/-! ## A lost probe -/

/-- The call for the code of a contract, the first one on its resolution. -/
def Connection.codeCall (connection : Connection (StateM σ))
    (undelivered : List (Delivery (StateM σ))) (address : Address) (world : σ) :
    (Reply × Traffic (StateM σ)) × σ :=
  connection.backend.caller.call "eth_getCode" (.list (codeParams address))
    (.start connection.numbered undelivered) world

/-- A contract is found that is not known, and the node does not answer its probe. -/
structure ProbeLost (gateway : Gateway (StateM σ)) (kind : ContractKind) (address : Address)
    (world : σ) (connection : Connection (StateM σ)) (node : NodeM σ) (error : GatewayError) :
    Prop where
  connected : gateway.wallet = .ok connection
  fronts : connection.backend.Fronts node
  fresh : gateway.versions.cached? kind address = none
  deployed : ∃ code,
    (connection.codeCall gateway.undelivered address world).1.1.result = .ok code ∧
      isContractCode code = true
  unanswered :
    let called := connection.codeCall gateway.undelivered address world
    (node (.make (UInt64.ofNat (connection.numbered + 2)) "eth_call"
      (.list (versionProbe kind address).params))
        (connection.backend.carrier.arrival called.1.2 called.2)).1 = .error error
  lost : Lost error

/-- Nothing is decided about a contract: its version is not resolved and not kept, and
nothing is encoded for it, handed in, asked or told. -/
structure Undecided (gateway : Gateway (StateM σ)) (kind : ContractKind) (address : Address)
    (world : σ) : Prop where
  unresolved : ∃ error, (Gateway.resolve kind address (.start gateway) world).1.1 = .error error
  unkept : (Gateway.resolve kind address (.start gateway) world).1.2.gateway.versions =
    gateway.versions
  unordered (order : Order)
    (ordered : order.contract gateway.config.unlockAddress = (kind, address)) :
    (∃ error, (order.turn gateway world).outcome = .error error) ∧
      (order.turn gateway world).handedIn = [] ∧ (order.turn gateway world).events = [] ∧
      (order.operation.after gateway world).versions = gateway.versions
  unread (isLock : kind = .publicLock) :
    (∃ error, ((Operation.getLock address).perform gateway world).1.1.outcome = .error error) ∧
      ((Operation.getLock address).perform gateway world).1.1.issued =
        (Gateway.resolve kind address (.start gateway) world).1.2.issued ∧
      ((Operation.getLock address).perform gateway world).1.1.events = [] ∧
      ((Operation.getLock address).after gateway world).versions = gateway.versions

/-- The two calls for a contract that is found. -/
theorem Connection.answer_resolve (connection : Connection (StateM σ))
    (undelivered : List (Delivery (StateM σ))) {registry : VersionRegistry}
    {kind : ContractKind} {address : Address} (fresh : registry.cached? kind address = none)
    {world : σ} {code : Json}
    (found : (connection.codeCall undelivered address world).1.1.result = .ok code)
    (isCode : isContractCode code = true) :
    connection.answer undelivered (registry.resolve kind address) world =
      let called := connection.codeCall undelivered address world
      let probed := connection.backend.caller.call "eth_call"
        (.list (versionProbe kind address).params) called.1.2 called.2
      ((registry.learned kind address ((versionProbe kind address).read probed.1.1),
        probed.1.2), probed.2) := by
  unfold codeCall at found
  have calls {α : Type} (method : String) (params : Json) (resume : Reply → Query α)
      (traffic : Traffic (StateM σ)) (world : σ) :
      (Query.call method params resume).runWith connection.backend.caller traffic world =
        let called := connection.backend.caller.call method params traffic world
        (resume called.1.1).runWith connection.backend.caller called.1.2 called.2 :=
    rfl
  change Query.runWith connection.backend.caller (registry.resolve kind address)
    (.start connection.numbered undelivered) world = _
  rw [VersionRegistry.resolve_fresh fresh, calls]
  simp only [found, isCode, if_true]
  rfl

theorem ProbeLost.resolve_eq {gateway : Gateway (StateM σ)} {kind : ContractKind}
    {address : Address}
    {world : σ} {connection : Connection (StateM σ)} {node : NodeM σ} {error : GatewayError}
    (probe : ProbeLost gateway kind address world connection node error) :
    ∃ traffic later, Gateway.resolve kind address (.start gateway) world =
      match gateway.versions.learned kind address ((versionProbe kind address).read
        (connection.backend.passOn (UInt64.ofNat (connection.numbered + 2)) (.error error))) with
      | .error cause =>
          ((.error cause, (Session.start gateway).answered connection traffic), later)
      | .ok (version, versions) =>
          ((.ok version,
            { (Session.start gateway).answered connection traffic with
              gateway :=
                { ((Session.start gateway).answered connection traffic).gateway with versions } }),
            later) := by
  rcases probe.deployed with ⟨code, found, isCode⟩
  let called := connection.codeCall gateway.undelivered address world
  let request := Rpc.Request.make (UInt64.ofNat (connection.numbered + 2)) "eth_call"
    (.list (versionProbe kind address).params)
  let reply := connection.backend.passOn (UInt64.ofNat (connection.numbered + 2)) (.error error)
  let asked := connection.backend.carrier.arrival called.1.2 called.2
  have counted : called.1.2.numbered = connection.numbered + 1 :=
    congrArg (·.1.2.numbered) (probe.fronts.call_eq (by decide) (by decide) (codeParams address)
      (.start connection.numbered gateway.undelivered) world)
  have second : connection.backend.caller.call "eth_call"
      (.list (versionProbe kind address).params) called.1.2 called.2 =
        ((reply, connection.backend.carrier.called called.1.2 request),
          (node request asked).2) := by
    have unanswered : (node request asked).1 = .error error := probe.unanswered
    rw [probe.fronts.call_eq (by decide) (by decide), Traffic.nextRequest, counted]
    change ((connection.backend.passOn request.id (node request asked).1, _), _) = _
    rw [unanswered]
    rfl
  have answered := connection.answer_resolve gateway.undelivered probe.fresh found isCode
  dsimp only at answered
  rw [second] at answered
  refine ⟨connection.backend.carrier.called called.1.2 request, (node request asked).2, ?_⟩
  rw [Gateway.resolve_connected probe.connected]
  rw [show connection.answer (Session.start gateway).gateway.undelivered
    ((Session.start gateway).gateway.versions.resolve kind address) world = _ from answered]
  cases gateway.versions.learned kind address ((versionProbe kind address).read reply) with
  | error error => rfl
  | ok learned => rfl

/-- A relay makes an answer of the failure, and a reply that is no envelope is taken for
one. -/
theorem ProbeLost.resolve_cases {gateway : Gateway (StateM σ)} {kind : ContractKind}
    {address : Address} {world : σ} {connection : Connection (StateM σ)} {node : NodeM σ}
    {error : GatewayError} (probe : ProbeLost gateway kind address world connection node error) :
    (connection.backend.isRelay = false ∧ ¬ Lost.IsAnswer error ∧
      ∃ traffic later, Gateway.resolve kind address (.start gateway) world =
        ((.error error, (Session.start gateway).answered connection traffic), later)) ∨
    ((connection.backend.isRelay = true ∨ Lost.IsAnswer error) ∧
      (Gateway.resolve kind address (.start gateway) world).1.1 = .ok .v0 ∧
      (Gateway.resolve kind address (.start gateway) world).1.2.gateway.versions =
        gateway.versions.pin kind address .v0) := by
  rcases probe.resolve_eq with ⟨traffic, later, resolved⟩
  rw [resolved, Backend.passOn]
  cases relay : connection.backend.isRelay with
  | true =>
      right
      exact ⟨.inl rfl, rfl, rfl⟩
  | false =>
      have read : (versionProbe kind address).read (.error error) = .error error := rfl
      simp only [Bool.false_eq_true, if_false, read]
      rcases VersionRegistry.learned_lost probe.lost gateway.versions kind address with
        ⟨answer, learned⟩ | ⟨failure, learned⟩
      · right
        rw [learned]
        exact ⟨.inr answer, rfl, rfl⟩
      · left
        rw [learned]
        exact ⟨trivial, failure, traffic, later, rfl⟩

/-- Without the version there is no order. -/
theorem Order.unresolved {order : Order} {gateway : Gateway (StateM σ)} {world later : σ}
    {error : GatewayError} {after : Session (StateM σ)}
    (refused : Gateway.resolve (order.contract gateway.config.unlockAddress).1
      (order.contract gateway.config.unlockAddress).2 (.start gateway) world =
        ((.error error, after), later))
    (unkept : after.gateway.versions = gateway.versions) :
    (∃ error, (order.turn gateway world).outcome = .error error) ∧
      (order.turn gateway world).handedIn = [] ∧ (order.turn gateway world).events = [] ∧
      (order.operation.after gateway world).versions = gateway.versions := by
  have prepared : ∃ cause stopped latest,
      order.prepare (.start gateway) world = ((.error cause, stopped), latest) ∧
        stopped.gateway.versions = gateway.versions := by
    rw [order.prepare_eq, refused]
    cases order.signer gateway with
    | error cause => exact ⟨cause, _, _, rfl, rfl⟩
    | ok signer => exact ⟨error, after, later, rfl, unkept⟩
  rcases prepared with ⟨cause, stopped, latest, fails, kept⟩
  rcases ends_refused (congrArg (·.1.1) fails) with ⟨outcome, handedIn, events⟩
  refine ⟨⟨cause, outcome⟩, handedIn, events, ?_⟩
  change ((order.operation : Operation (StateM σ)).action (.start gateway)
    world).1.2.gateway.versions = _
  have placed : order.place (.start gateway) world = ((.error cause, stopped), latest) :=
    GatewayM.bind_error fails _
  rw [order.action_eq, GatewayM.bind_error placed]
  exact kept

/-- A node that has contracts but does not answer calls to them. -/
def muteNode : NodeM Unit := fun request =>
  if request.method = "net_version" then pure (.ok (.success request.id (.string "1")))
  else if request.method = "eth_getCode" then
    pure (.ok (.success request.id (.string "0x6080")))
  else pure (.error (.transport .channelClosed))

def muteWallet : Wallet (StateM Unit) := .plain muteNode

def mutePeer : RelayPeer (StateM Unit) :=
  (RelayHost.native (fun method params => muteNode (.make 0 method params)) .generic).answer

def Gateway.onto (endpoint : Endpoint (StateM Unit)) : Gateway (StateM Unit) :=
  (Operation.connect endpoint).after (.new .standard) ()

/-- Nothing is decided for want of an answer, but for the answers that are made up: over
a relay, and in place of a reply that is no envelope. -/
theorem ProbeLost.undecided_iff {gateway : Gateway (StateM σ)} {kind : ContractKind}
    {address : Address} {world : σ} {connection : Connection (StateM σ)} {node : NodeM σ}
    {error : GatewayError} (probe : ProbeLost gateway kind address world connection node error) :
    Undecided gateway kind address world ↔
      connection.backend.isRelay = false ∧ ¬ Lost.IsAnswer error := by
  rcases probe.resolve_cases with
    ⟨direct, failure, traffic, later, resolved⟩ | ⟨answer, version, _⟩
  · refine ⟨fun _ => ⟨direct, failure⟩, fun _ => ?_⟩
    refine ⟨⟨error, by rw [resolved]⟩, by rw [resolved]; rfl, ?_, ?_⟩
    · intro order ordered
      exact Order.unresolved (by rw [ordered]; exact resolved) rfl
    · rintro rfl
      have read : (Operation.getLock address).action (.start gateway) world =
          ((.error error, (Session.start gateway).answered connection traffic), later) :=
        GatewayM.bind_error (GatewayM.bind_error resolved _) _
      change (∃ error, ((Operation.getLock address).action (.start gateway) world).1.1 =
          .error error) ∧
        ((Operation.getLock address).action (.start gateway) world).1.2.issued = _ ∧
        ((Operation.getLock address).action (.start gateway) world).1.2.events = [] ∧
        ((Operation.getLock address).action (.start gateway) world).1.2.gateway.versions = _
      rw [read, resolved]
      exact ⟨⟨error, rfl⟩, rfl, rfl, rfl⟩
  · constructor
    · intro undecided
      rcases undecided.unresolved with ⟨cause, refused⟩
      rw [version] at refused
      cases refused
    · rintro ⟨direct, failure⟩
      rcases answer with relay | answer
      · rw [direct] at relay
        cases relay
      · exact absurd answer failure

theorem muteWallet_undecided :
    ProbeLost (.onto (.direct muteWallet)) .publicLock .zero ()
        { backend := .direct muteWallet, flavor := .generic, generation := 1, numbered := 1 }
        muteNode (.transport .channelClosed) ∧
      (Undecided (.onto (.direct muteWallet)) .publicLock .zero () ↔
        (Backend.direct muteWallet).isRelay = false ∧
          ¬ Lost.IsAnswer (.transport .channelClosed)) := by
  have probe : ProbeLost (.onto (.direct muteWallet)) .publicLock .zero ()
      { backend := .direct muteWallet, flavor := .generic, generation := 1, numbered := 1 }
      muteNode (.transport .channelClosed) :=
    { connected := rfl
      fronts := .direct muteWallet
      fresh := rfl
      deployed := ⟨.string "0x6080", rfl, rfl⟩
      unanswered := rfl
      lost := .channelClosed }
  exact ⟨probe, probe.undecided_iff⟩

/-- Over a relay the contract passes for one of the first version. -/
theorem mutePeer_decided :
    ¬ ∀ (gateway : Gateway (StateM Unit)) (kind : ContractKind) (address : Address)
      (connection : Connection (StateM Unit)) (node : NodeM Unit) (error : GatewayError),
      ProbeLost gateway kind address () connection node error →
        Undecided gateway kind address () := by
  intro undecided
  let node (method : String) (params : Json) := muteNode (.make 0 method params)
  have probe : ProbeLost (.onto (.relay mutePeer 1 .inTurn)) .publicLock .zero ()
      { backend := .relay mutePeer 1 .inTurn, flavor := .generic, generation := 1, numbered := 2 }
      (fun request => node request.method request.params) (.transport .channelClosed) :=
    { connected := rfl
      fronts := .relay node .generic 1 .inTurn
      fresh := rfl
      deployed := ⟨.string "0x6080", rfl, rfl⟩
      unanswered := rfl
      lost := .channelClosed }
  rcases (undecided _ _ _ _ _ _ probe).unresolved with ⟨error, refused⟩
  have decided : (Gateway.resolve .publicLock .zero
      (.start (.onto (.relay mutePeer 1 .inTurn))) ()).1.1 = .ok .v0 := rfl
  rw [decided] at refused
  cases refused

end LockGateway
