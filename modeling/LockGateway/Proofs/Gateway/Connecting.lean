import LockGateway.Proofs.Outcome
import LockGateway.Proofs.Gateway.Asking

/-! Attempts to connect: what is asked on the way, and what a gateway knows of the
network afterwards. -/

namespace LockGateway

variable {m : Type → Type} {σ α : Type}

/-- The calls that are made on the way to a connection. -/
def opensConnection (method : String) (_ : Json) : Prop :=
  method = walletInfoMethod ∨ method = "net_version"

/-! ## Opening -/

theorem Query.walletInfo_asks : Query.walletInfo.AsksOnly opensConnection := by
  apply AsksOnly.bind
  · exact AsksOnly.attempt (.send (.inl rfl))
  · intro outcome
    split
    · exact .ofExcept _
    · trivial
    · trivial

theorem Connection.open_sends (endpoint : Endpoint (StateM σ)) (config : Config)
    (generation : UInt64) (undelivered : List (Delivery (StateM σ))) (world : σ) :
    ∀ request ∈ (Connection.open endpoint config generation undelivered world).1.2.sent,
      opensConnection request.method request.params := by
  cases endpoint with
  | direct wallet =>
      intro request member
      cases member
  | localRpc server schedule =>
      intro request member
      cases member
  | relay peer capacity schedule =>
      exact answer_sends
        { backend := .relay peer capacity schedule, flavor := .generic, generation, numbered := 0 }
        Query.walletInfo_asks undelivered world

/-- A connection that is opened has the number it was given, and the flavor that its
wallet is reported with. -/
theorem Connection.open_ok {endpoint : Endpoint (StateM σ)} {config : Config}
    {generation : UInt64} {undelivered : List (Delivery (StateM σ))} {world : σ}
    {connection : Connection (StateM σ)} {info : WalletInfo}
    (opened : (Connection.open endpoint config generation undelivered world).1.1 =
      .ok (connection, info)) :
    connection.generation = generation ∧ connection.flavor = info.flavor := by
  cases endpoint with
  | direct wallet =>
      have entered : (openDirect wallet generation world).1 = (connection, info) :=
        Except.ok.inj opened
      rw [openDirect, world_bind] at entered
      rcases enabled : wallet.enable world with ⟨_ | _, later⟩
      · rw [enabled] at entered
        cases entered
        exact ⟨rfl, rfl⟩
      · rw [enabled] at entered
        cases entered
        cases wallet.flavor <;> exact ⟨rfl, rfl⟩
  | localRpc server schedule =>
      rcases Outcome.bind_eq_ok_iff.mp opened with ⟨url, _, built⟩
      cases built
      exact ⟨rfl, rfl⟩
  | relay peer capacity schedule =>
      let fresh : Connection (StateM σ) :=
        { backend := .relay peer capacity schedule, flavor := .generic, generation, numbered := 0 }
      have told : (fresh.answer undelivered .walletInfo world).1.1.map (fun info =>
          ({ fresh.after (fresh.answer undelivered .walletInfo world).1.2 with
            flavor := info.flavor }, info)) = .ok (connection, info) := opened
      cases said : (fresh.answer undelivered .walletInfo world).1.1 with
      | error error => simp [said, Except.map] at told
      | ok found =>
          rw [said] at told
          cases told
          exact ⟨rfl, rfl⟩

/-- A network is accepted if it is the required one, or if none is required. -/
theorem Config.checkNetwork_ok_iff {config : Config} {network : UInt64} :
    config.checkNetwork network = .ok () ↔
      config.requiredChainId = none ∨ config.requiredChainId = some network := by
  rw [checkNetwork]
  cases config.requiredChainId with
  | none => simp
  | some required =>
      by_cases equal : network = required
      · simp [equal]
      · simp [equal, Ne.symm equal]

namespace Gateway

/-- The session once a connection was opened. -/
def opened (session : Session m) (connection : Connection m) (info : WalletInfo)
    (traffic : Traffic m) : Session m :=
  let recorded := session.record session.gateway.generation traffic
  { recorded with
    gateway := { recorded.gateway with connection := some connection, walletInfo := info }
    events := recorded.events ++ [.walletInfo info] }

theorem openConnection_eq (endpoint : Endpoint (StateM σ)) (session : Session (StateM σ))
    (world : σ) :
    openConnection endpoint session world =
      match Connection.open endpoint session.gateway.config session.gateway.generation
        session.gateway.undelivered world with
      | ((.ok (connection, info), traffic), later) =>
          ((.ok info, opened session connection info traffic), later)
      | ((.error error, traffic), later) =>
          ((.error error, session.record session.gateway.generation traffic), later) := by
  change (
    let ended :=
      Connection.open endpoint session.gateway.config session.gateway.generation
        session.gateway.undelivered world
    (do
      let (connection, walletInfo) ← require ended.1.1
      update ({ · with connection := some connection, walletInfo })
      emit (.walletInfo walletInfo)
      return walletInfo : GatewayM (StateM σ) WalletInfo)
        (session.record session.gateway.generation ended.1.2) ended.2) = _
  rcases Connection.open endpoint session.gateway.config session.gateway.generation
    session.gateway.undelivered world with ⟨⟨error | ⟨connection, info⟩, traffic⟩, later⟩
  · rfl
  · rfl

/-! ## Joining the network -/

theorem joinNetwork_eq (session : Session (StateM σ)) (world : σ) :
    joinNetwork session world =
      match ask .network session world with
      | ((.error error, after), later) => ((.error error, after), later)
      | ((.ok network, after), later) =>
          match after.gateway.config.checkNetwork network with
          | .error error =>
              ((.error error, { after with events := after.events ++ [.error error] }), later)
          | .ok () =>
              ((.ok (),
                { after with
                  gateway := { after.gateway with networkId := some network }
                  events := after.events ++ [.networkChanged network] }), later) := by
  rw [joinNetwork, GatewayM.bind_eq]
  rcases ask Query.network session world with ⟨⟨error | network, after⟩, later⟩
  · rfl
  · change (match after.gateway.config.checkNetwork network with
      | .error error => do
          emit (.error error)
          throw error
      | .ok () => do
          update ({ · with networkId := some network })
          emit (.networkChanged network) : GatewayM (StateM σ) Unit) after later =
        (match after.gateway.config.checkNetwork network with
          | .error error => _
          | .ok () => _)
    cases after.gateway.config.checkNetwork network with
    | error error => rfl
    | ok accepted => rfl

theorem network_asks : Query.network.AsksOnly opensConnection :=
  .ask (.inr rfl)

/-- The network is known afterwards if it is the right one, and only then. -/
theorem joinNetwork_joins (session : Session (StateM σ))
    (unknown : session.gateway.networkId = none) (world : σ) :
    let said := (ask .network session world).1.1
    let joined := joinNetwork session world
    Session.Issues opensConnection session joined.1.2 ∧
      joined.1.2.gateway.config = session.gateway.config ∧
      joined.1.2.gateway.walletInfo = session.gateway.walletInfo ∧
      match joined.1.1 with
      | .error _ => joined.1.2.gateway.networkId = none ∧
          ∀ network, said = .ok network → session.gateway.config.checkNetwork network ≠ .ok ()
      | .ok () => ∃ network, said = .ok network ∧
          joined.1.2.gateway.networkId = some network ∧
          session.gateway.config.checkNetwork network = .ok () := by
  have asks := ask_asks network_asks session world
  rw [joinNetwork_eq]
  revert asks
  rcases ask Query.network session world with ⟨⟨error | network, after⟩, later⟩
  · intro asks
    refine ⟨asks.issues, asks.connection.config, asks.connection.walletInfo, ?_, ?_⟩
    · exact asks.connection.networkId.trans unknown
    · intro network said
      cases said
  · intro asks
    have config := asks.connection.config
    change after.gateway.config = session.gateway.config at config
    rw [← config]
    cases checked : after.gateway.config.checkNetwork network with
    | error error =>
        simp only [checked]
        refine ⟨asks.issues, trivial, asks.connection.walletInfo, ?_, ?_⟩
        · exact asks.connection.networkId.trans unknown
        · intro other said
          cases said
          rw [checked]
          intro accepted
          cases accepted
    | ok accepted =>
        simp only [checked]
        exact ⟨asks.issues, trivial, asks.connection.walletInfo, network, rfl, rfl, checked⟩

/-! ## Attempts -/

/-- Opens a connection like an attempt to connect, and only asks for the network. -/
def learnNetwork [Monad m] (endpoint : Endpoint m) : GatewayM m UInt64 := do
  update (·.disconnected)
  let _ ← openConnection endpoint
  ask .network

/-- What an attempt to connect leaves behind, with what the node says of its network. -/
structure Attempted (gateway : Gateway m) (said : Except GatewayError UInt64)
    (outcome : Except GatewayError WalletInfo) (after : Session m) : Prop where
  config : after.gateway.config = gateway.config
  issues : Session.Issues opensConnection (.start gateway) after
  failed (error : GatewayError) (fails : outcome = .error error) :
    after.gateway.networkId = none ∧
      ∀ network, said = .ok network → gateway.config.checkNetwork network ≠ .ok ()
  succeeded (info : WalletInfo) (succeeds : outcome = .ok info) :
    after.gateway.walletInfo = info ∧
      (info.noWallet = false → ∃ network, said = .ok network ∧
        after.gateway.networkId = some network ∧ gateway.config.checkNetwork network = .ok ())

/-- What is done over a connection once it is open. -/
def greet (info : WalletInfo) : GatewayM (StateM σ) WalletInfo := do
  unless info.noWallet do joinNetwork
  return info

/-- Opening a connection drops the one before, and what follows starts from the new one. -/
theorem opening_eq (endpoint : Endpoint (StateM σ)) (next : WalletInfo → GatewayM (StateM σ) α)
    (gateway : Gateway (StateM σ)) (world : σ) :
    (do
      update (·.disconnected)
      let info ← openConnection endpoint
      next info : GatewayM (StateM σ) α) (.start gateway) world =
      match Connection.open endpoint gateway.config (gateway.generation + 1) gateway.undelivered
        world with
      | ((.ok (connection, info), traffic), later) =>
          next info (opened (.start gateway.disconnected) connection info traffic) later
      | ((.error error, traffic), later) =>
          ((.error error,
            Session.record (.start gateway.disconnected) (gateway.generation + 1) traffic),
              later) := by
  let dropped : Session (StateM σ) := .start gateway.disconnected
  have attempt : Connection.open endpoint dropped.gateway.config dropped.gateway.generation
      dropped.gateway.undelivered world =
        Connection.open endpoint gateway.config (gateway.generation + 1) gateway.undelivered
          world :=
    rfl
  change (openConnection endpoint >>= next) dropped world = _
  rw [GatewayM.bind_eq, openConnection_eq, attempt]
  rcases Connection.open endpoint gateway.config (gateway.generation + 1) gateway.undelivered
    world with ⟨⟨error | ⟨connection, info⟩, traffic⟩, later⟩
  · rfl
  · rfl

/-- An attempt to connect opens a connection, and if it can be opened it is greeted. -/
theorem connect_eq (endpoint : Endpoint (StateM σ)) (gateway : Gateway (StateM σ)) (world : σ) :
    connect endpoint (.start gateway) world =
      match Connection.open endpoint gateway.config (gateway.generation + 1) gateway.undelivered
        world with
      | ((.ok (connection, info), traffic), later) =>
          greet info (opened (.start gateway.disconnected) connection info traffic) later
      | ((.error error, traffic), later) =>
          ((.error error,
            Session.record (.start gateway.disconnected) (gateway.generation + 1) traffic),
              later) :=
  opening_eq endpoint greet gateway world

/-- A greeting joins the network if there is a wallet. -/
theorem greet_attempted {gateway : Gateway (StateM σ)} {session : Session (StateM σ)}
    (fresh : session.gateway.networkId = none) (config : session.gateway.config = gateway.config)
    (issues : Session.Issues opensConnection (.start gateway) session) (world : σ) :
    Attempted gateway (ask .network session world).1.1
      (greet session.gateway.walletInfo session world).1.1
      (greet session.gateway.walletInfo session world).1.2 := by
  unfold greet
  cases missing : session.gateway.walletInfo.noWallet with
  | true =>
      exact
        { config := config
          issues := issues
          failed := by
            intro _ fails
            cases fails
          succeeded := by
            intro found succeeds
            cases succeeds
            refine ⟨rfl, ?_⟩
            intro usable
            rw [missing] at usable
            cases usable }
  | false =>
      have joins := joinNetwork_joins session fresh world
      change Attempted gateway _
        ((do
          joinNetwork
          return session.gateway.walletInfo : GatewayM (StateM σ) WalletInfo) session world).1.1
        ((do
          joinNetwork
          return session.gateway.walletInfo : GatewayM (StateM σ) WalletInfo) session world).1.2
      rw [GatewayM.bind_eq]
      dsimp only at joins
      rw [config] at joins
      revert joins
      rcases joinNetwork session world with ⟨⟨error | joined, after⟩, later⟩
      · intro joins
        rcases joins with ⟨joinIssues, sameConfig, walletInfo, unknown, wrong⟩
        exact
          { config := sameConfig
            issues := issues.trans joinIssues
            failed := fun _ _ => ⟨unknown, wrong⟩
            succeeded := by
              intro _ succeeds
              cases succeeds }
      · intro joins
        rcases joins with ⟨joinIssues, sameConfig, walletInfo, network, said, known, accepted⟩
        exact
          { config := sameConfig
            issues := issues.trans joinIssues
            failed := by
              intro _ fails
              cases fails
            succeeded := by
              intro found succeeds
              cases succeeds
              exact ⟨walletInfo, fun _ => ⟨network, said, known, accepted⟩⟩ }

theorem connect_attempted (endpoint : Endpoint (StateM σ)) (gateway : Gateway (StateM σ))
    (world : σ) :
    Attempted gateway (learnNetwork endpoint (.start gateway) world).1.1
      (connect endpoint (.start gateway) world).1.1
      (connect endpoint (.start gateway) world).1.2 := by
  have sends := Connection.open_sends endpoint gateway.config (gateway.generation + 1)
    gateway.undelivered world
  rw [connect_eq, learnNetwork, opening_eq]
  revert sends
  rcases Connection.open endpoint gateway.config (gateway.generation + 1) gateway.undelivered
    world with ⟨⟨error | ⟨connection, info⟩, traffic⟩, later⟩
  · intro sends
    exact
      { config := rfl
        issues := .of_sent rfl sends
        failed := by
          intro _ _
          refine ⟨rfl, ?_⟩
          intro network said
          cases said
        succeeded := by
          intro _ succeeds
          cases succeeds }
  · intro sends
    let session := opened (.start gateway.disconnected) connection info traffic
    have config : session.gateway.config = gateway.config := rfl
    have issues : Session.Issues opensConnection (.start gateway) session := .of_sent rfl sends
    exact greet_attempted rfl config issues later

end Gateway

end LockGateway
