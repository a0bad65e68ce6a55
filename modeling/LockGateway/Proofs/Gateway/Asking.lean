import LockGateway.Proofs.Connection.Sending
import LockGateway.Proofs.Gateway.Action

/-! Actions that only ask the node. They send what their query asks for, tell
nobody of it, and leave the connection the one that it was. -/

namespace LockGateway

variable {m : Type → Type} {σ α β : Type} {fits : String → Json → Prop}

/-! ## The connection that stays -/

/-- A connection without the count of its requests. -/
def Connection.uncounted (connection : Connection m) : Connection m :=
  { connection with numbered := 0 }

/-- Two states of a gateway on one connection, with what is known of its network
and its wallet. -/
structure Gateway.SameConnection (before after : Gateway m) : Prop where
  config : after.config = before.config
  connection :
    after.connection.map Connection.uncounted = before.connection.map Connection.uncounted
  networkId : after.networkId = before.networkId
  walletInfo : after.walletInfo = before.walletInfo
  generation : after.generation = before.generation

namespace Gateway.SameConnection

theorem refl (gateway : Gateway m) : gateway.SameConnection gateway :=
  ⟨rfl, rfl, rfl, rfl, rfl⟩

theorem trans {first second third : Gateway m} (early : first.SameConnection second)
    (late : second.SameConnection third) : first.SameConnection third where
  config := late.config.trans early.config
  connection := late.connection.trans early.connection
  networkId := late.networkId.trans early.networkId
  walletInfo := late.walletInfo.trans early.walletInfo
  generation := late.generation.trans early.generation

/-- Where there was no connection there is none. -/
theorem alone {before after : Gateway m} (same : before.SameConnection after)
    (none : before.connection = none) : after.connection = Option.none := by
  have equal := same.connection
  rw [none] at equal
  exact Option.map_eq_none_iff.mp equal

theorem wallet_eq {before after : Gateway m} (same : before.SameConnection after) :
    after.wallet.map Connection.uncounted = before.wallet.map Connection.uncounted := by
  have equal := same.connection
  unfold Gateway.wallet
  rw [same.walletInfo]
  cases earlier : before.connection with
  | none => rw [same.alone earlier]
  | some connection =>
      rw [earlier] at equal
      rcases Option.map_eq_some_iff.mp equal with ⟨other, later, uncounted⟩
      rw [later]
      cases before.walletInfo.noWallet with
      | true => rfl
      | false => exact congrArg Except.ok uncounted

theorem wallet_ok {before after : Gateway m} (same : before.SameConnection after)
    {connection : Connection m} (connected : before.wallet = .ok connection) :
    ∃ later, after.wallet = .ok later ∧ later.uncounted = connection.uncounted := by
  have equal := same.wallet_eq
  rw [connected] at equal
  cases found : after.wallet with
  | error error =>
      rw [found] at equal
      cases equal
  | ok later =>
      rw [found] at equal
      exact ⟨later, rfl, Except.ok.inj equal⟩

theorem wallet_error {before after : Gateway m} (same : before.SameConnection after)
    {error : GatewayError} (refused : before.wallet = .error error) :
    after.wallet = .error error := by
  have equal := same.wallet_eq
  rw [refused] at equal
  cases found : after.wallet with
  | error other =>
      rw [found] at equal
      cases equal
      rfl
  | ok later =>
      rw [found] at equal
      cases equal

end Gateway.SameConnection

/-! ## What is asked -/

/-- From a session to a later one only fitting requests were sent. -/
def Session.Issues (fits : String → Json → Prop) (before after : Session m) : Prop :=
  ∃ sent, after.issued = before.issued ++ sent ∧
    ∀ issued ∈ sent, fits issued.request.method issued.request.params

namespace Session.Issues

theorem of_issued_eq {before after : Session m} (equal : after.issued = before.issued) :
    Issues fits before after :=
  ⟨[], by simp [equal]⟩

theorem trans {first second third : Session m} (early : Issues fits first second)
    (late : Issues fits second third) : Issues fits first third := by
  rcases early with ⟨earlySent, earlyEqual, earlyFits⟩
  rcases late with ⟨lateSent, lateEqual, lateFits⟩
  refine ⟨earlySent ++ lateSent, ?_, ?_⟩
  · rw [lateEqual, earlyEqual, List.append_assoc]
  · intro issued member
    rcases List.mem_append.mp member with early | late
    · exact earlyFits issued early
    · exact lateFits issued late

/-- What one connection sends. -/
theorem of_sent {session after : Session m} {generation : UInt64} {traffic : Traffic m}
    (equal : after.issued =
      session.issued ++ traffic.sent.map fun request => ⟨generation, request⟩)
    (kinds : ∀ request ∈ traffic.sent, fits request.method request.params) :
    Issues fits session after := by
  refine ⟨_, equal, ?_⟩
  intro issued member
  rcases List.mem_map.mp member with ⟨request, sent, equal⟩
  subst equal
  exact kinds request sent

end Session.Issues

/-- From a session to a later one the node was asked, and nothing else happened. -/
structure Session.Asks (fits : String → Json → Prop) (before after : Session m) : Prop where
  connection : before.gateway.SameConnection after.gateway
  account : after.gateway.account = before.gateway.account
  events : after.events = before.events
  issues : Issues fits before after

namespace Session.Asks

theorem refl (session : Session m) : Asks fits session session :=
  ⟨.refl _, rfl, rfl, .of_issued_eq rfl⟩

theorem trans {first second third : Session m} (early : Asks fits first second)
    (late : Asks fits second third) : Asks fits first third where
  connection := early.connection.trans late.connection
  account := late.account.trans early.account
  events := late.events.trans early.events
  issues := early.issues.trans late.issues

theorem bind {action : GatewayM (StateM σ) α} {next : α → GatewayM (StateM σ) β}
    (asks : GatewayM.Keeps (Asks fits) action)
    (nextAsks : ∀ answer, GatewayM.Keeps (Asks fits) (next answer)) :
    GatewayM.Keeps (Asks fits) (action >>= next) :=
  asks.bind .trans nextAsks

end Session.Asks

/-! ## Queries -/

/-- The session once a query was answered over a connection. -/
def Session.answered (session : Session m) (connection : Connection m) (traffic : Traffic m) :
    Session m :=
  (session.setConnection (connection.after traffic)).record connection.generation traffic

namespace Gateway

/-- Without a usable wallet nothing is asked. -/
theorem inquire_refused {query : Query α} {session : Session (StateM σ)} {error : GatewayError}
    (refused : session.gateway.wallet = .error error) (world : σ) :
    inquire query session world = ((.error error, session), world) := by
  change ((do
    let connection ← require session.gateway.wallet
    _ : GatewayM (StateM σ) (Except GatewayError α)) session world) = _
  rw [refused]
  rfl

theorem inquire_connected {query : Query α} {session : Session (StateM σ)}
    {connection : Connection (StateM σ)} (connected : session.gateway.wallet = .ok connection)
    (world : σ) :
    inquire query session world =
      let reply := connection.answer session.gateway.undelivered query world
      ((.ok reply.1.1, session.answered connection reply.1.2), reply.2) := by
  change ((do
    let connection ← require session.gateway.wallet
    _ : GatewayM (StateM σ) (Except GatewayError α)) session world) = _
  rw [connected]
  rfl

theorem ask_connected {query : Query α} {session : Session (StateM σ)}
    {connection : Connection (StateM σ)} (connected : session.gateway.wallet = .ok connection)
    (world : σ) :
    ask query session world =
      let reply := connection.answer session.gateway.undelivered query world
      ((reply.1.1, session.answered connection reply.1.2), reply.2) := by
  rw [ask, GatewayM.bind_ok (inquire_connected connected world)]
  rfl

theorem ask_refused {query : Query α} {session : Session (StateM σ)} {error : GatewayError}
    (refused : session.gateway.wallet = .error error) (world : σ) :
    ask query session world = ((.error error, session), world) := by
  rw [ask, GatewayM.bind_error (inquire_refused refused world)]

theorem connection_of_wallet {gateway : Gateway m} {connection : Connection m}
    (connected : gateway.wallet = .ok connection) : gateway.connection = some connection := by
  unfold Gateway.wallet at connected
  split at connected
  · cases connected
  · split at connected
    · cases connected
    · rename_i found _
      rw [found]
      exact congrArg some (Except.ok.inj connected)

theorem usable_of_wallet {gateway : Gateway m} {connection : Connection m}
    (connected : gateway.wallet = .ok connection) : gateway.walletInfo.noWallet = false := by
  unfold Gateway.wallet at connected
  split at connected
  · cases connected
  · split at connected
    · cases connected
    · rename_i usable
      exact Bool.eq_false_iff.mpr usable

theorem answered_same {session : Session m} {connection : Connection m}
    (connected : session.gateway.wallet = .ok connection) (traffic : Traffic m) :
    session.gateway.SameConnection (session.answered connection traffic).gateway where
  config := rfl
  connection := by
    rw [connection_of_wallet connected]
    rfl
  networkId := rfl
  walletInfo := rfl
  generation := rfl

theorem answered_asks {query : Query α} (asks : query.AsksOnly fits)
    {session : Session (StateM σ)} {connection : Connection (StateM σ)}
    (connected : session.gateway.wallet = .ok connection) (world : σ) :
    Session.Asks fits session (session.answered connection
      (connection.answer session.gateway.undelivered query world).1.2) where
  connection := answered_same connected _
  account := rfl
  events := rfl
  issues := .of_sent rfl (connection.answer_sends asks session.gateway.undelivered world)

theorem inquire_asks {query : Query α} (asks : query.AsksOnly fits) :
    GatewayM.Keeps (Session.Asks fits) (inquire (m := StateM σ) query) := by
  intro session world
  cases found : session.gateway.wallet with
  | error error =>
      rw [inquire_refused found]
      exact .refl session
  | ok connection =>
      rw [inquire_connected found]
      exact answered_asks asks found world

theorem ask_asks {query : Query α} (asks : query.AsksOnly fits) :
    GatewayM.Keeps (Session.Asks fits) (ask (m := StateM σ) query) :=
  Session.Asks.bind (inquire_asks asks) fun _ => .of_same .refl fun _ _ => rfl

/-- What was learned of versions is put down without a trace elsewhere. -/
theorem update_versions_asks (versions : VersionRegistry) :
    GatewayM.Keeps (Session.Asks fits)
      (update ({ · with versions }) : GatewayM (StateM σ) Unit) :=
  fun _ _ => ⟨⟨rfl, rfl, rfl, rfl, rfl⟩, rfl, rfl, .of_issued_eq rfl⟩

end Gateway

/-! ## Versions -/

/-- The calls that read a contract. -/
def readsContract (method : String) (_ : Json) : Prop :=
  method = "eth_getCode" ∨ method = "eth_call"

theorem VersionRegistry.resolve_asks (registry : VersionRegistry) (kind : ContractKind)
    (address : Address) : (registry.resolve kind address).AsksOnly readsContract := by
  unfold resolve
  cases registry.cached? kind address with
  | some version => trivial
  | none =>
      apply Query.AsksOnly.bind
      · apply Query.AsksOnly.bind (.send (.inl rfl))
        intro code
        split
        · apply Query.AsksOnly.bind
          · exact Query.AsksOnly.attempt (.ask (.inr rfl))
          · intro outcome
            apply Query.AsksOnly.bind (.ofExcept _)
            intro number
            exact .ofExcept _
        · trivial
      · intro version
        trivial

namespace Gateway

theorem resolve_eq (kind : ContractKind) (address : Address) (session : Session (StateM σ))
    (world : σ) :
    resolve kind address session world =
      (do
        let (version, versions) ← ask (session.gateway.versions.resolve kind address)
        update ({ · with versions })
        return version : GatewayM (StateM σ) ContractVersion) session world :=
  rfl

/-- What a version is, and what is learned of it, over a connection. -/
theorem resolve_connected {kind : ContractKind} {address : Address}
    {session : Session (StateM σ)} {connection : Connection (StateM σ)}
    (connected : session.gateway.wallet = .ok connection) (world : σ) :
    resolve kind address session world =
      match connection.answer session.gateway.undelivered
        (session.gateway.versions.resolve kind address) world with
      | ((.error error, traffic), later) =>
          ((.error error, session.answered connection traffic), later)
      | ((.ok (version, versions), traffic), later) =>
          ((.ok version,
            { session.answered connection traffic with
              gateway := { (session.answered connection traffic).gateway with versions } }),
            later) := by
  rw [resolve_eq, GatewayM.bind_eq, ask_connected connected]
  dsimp only
  rcases connection.answer session.gateway.undelivered
    (session.gateway.versions.resolve kind address) world with
    ⟨⟨error | ⟨version, versions⟩, traffic⟩, later⟩
  · rfl
  · rfl

theorem resolve_asks (kind : ContractKind) (address : Address) :
    GatewayM.Keeps (Session.Asks readsContract) (resolve (m := StateM σ) kind address) := by
  intro session world
  rw [resolve_eq]
  apply Session.Asks.bind
  · exact ask_asks (session.gateway.versions.resolve_asks kind address)
  · intro found
    apply Session.Asks.bind (update_versions_asks found.2)
    intro _
    exact .of_same .refl fun _ _ => rfl

end Gateway

end LockGateway
