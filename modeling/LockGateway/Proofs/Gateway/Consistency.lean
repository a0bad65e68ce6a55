import LockGateway.Proofs.Gateway.History

/-! What the parts of a gateway's state say of each other. An attempt to connect forgets
everything before it opens a connection, and whatever else is put down later is put down
on a connection that is of use. So the parts agree wherever an operation ends, also if it
ends early, and after every history. -/

namespace LockGateway

variable {m : Type → Type} {σ α β : Type}

/-- The parts of the state agree, after some number of attempts to connect. -/
structure Gateway.Consistent (attempts : Nat) (gateway : Gateway m) : Prop where
  ready_iff : gateway.ready = true ↔ gateway.account.isSome = true
  usable (known : gateway.account.isSome = true ∨ gateway.networkId.isSome = true) :
    gateway.connection.isSome = true ∧ gateway.walletInfo.noWallet = false
  onRequired {network required : UInt64} (joined : gateway.networkId = some network)
    (pinned : gateway.config.requiredChainId = some required) : network = required
  current {connection : Connection m} (connected : gateway.connection = some connection) :
    connection.generation = gateway.generation ∧
      connection.flavor = gateway.walletInfo.flavor
  unlearned (useless : gateway.connection = none ∨ gateway.walletInfo.noWallet = true) :
    gateway.versions = .empty
  generation_eq : gateway.generation = UInt64.ofNat attempts

namespace Gateway.Consistent

variable {attempts : Nat} {gateway : Gateway m} {connection : Connection m}

theorem new (config : Config) : (Gateway.new config : Gateway m).Consistent 0 where
  ready_iff := by simp [Gateway.new]
  usable known := by simp [Gateway.new] at known
  onRequired joined := by simp [Gateway.new] at joined
  current connected := by simp [Gateway.new] at connected
  unlearned _ := rfl
  generation_eq := rfl

/-- Forgetting everything makes the rest agree. -/
theorem disconnected (counted : gateway.generation = UInt64.ofNat attempts) :
    gateway.disconnected.Consistent (attempts + 1) where
  ready_iff := by simp [Gateway.disconnected]
  usable known := by simp [Gateway.disconnected] at known
  onRequired joined := by simp [Gateway.disconnected] at joined
  current connected := by simp [Gateway.disconnected] at connected
  unlearned _ := rfl
  generation_eq := by
    rw [UInt64.ofNat_add, ← counted]
    rfl

/-! What is put down on a connection that is of use. -/

theorem counted (consistent : gateway.Consistent attempts)
    (connected : gateway.wallet = .ok connection) (traffic : Traffic m) :
    { gateway with
      connection := some (connection.after traffic)
      undelivered := traffic.undelivered }.Consistent attempts :=
  have current := consistent.current (connection_of_wallet connected)
  have useful := usable_of_wallet connected
  { consistent with
    usable := fun _ => ⟨rfl, useful⟩
    current := by
      rintro _ ⟨⟩
      exact current
    unlearned := by simp [useful] }

theorem learned (consistent : gateway.Consistent attempts)
    (connected : gateway.wallet = .ok connection) (versions : VersionRegistry) :
    { gateway with versions }.Consistent attempts :=
  { consistent with
    unlearned := by simp [connection_of_wallet connected, usable_of_wallet connected] }

theorem loaded (consistent : gateway.Consistent attempts)
    (connected : gateway.wallet = .ok connection) (account : Address) :
    { gateway with account := some account, ready := true }.Consistent attempts :=
  { consistent with
    ready_iff := by simp
    usable := by simp [connection_of_wallet connected, usable_of_wallet connected] }

theorem joined (consistent : gateway.Consistent attempts)
    (connected : gateway.wallet = .ok connection) {network : UInt64}
    (accepted : gateway.config.checkNetwork network = .ok ()) :
    { gateway with networkId := some network }.Consistent attempts :=
  { consistent with
    usable := by simp [connection_of_wallet connected, usable_of_wallet connected]
    onRequired := by
      rintro _ required ⟨⟩ pinned
      change gateway.config.requiredChainId = some required at pinned
      simpa [Config.checkNetwork, pinned] using accepted }

end Gateway.Consistent

/-! ## Actions -/

/-- If the state is consistent before, it is so after. -/
def Session.Preserves (attempts : Nat) (before after : Session m) : Prop :=
  before.gateway.Consistent attempts → after.gateway.Consistent attempts

namespace Session.Preserves

variable {attempts : Nat}

theorem trans {first second third : Session m} (early : Preserves attempts first second)
    (late : Preserves attempts second third) : Preserves attempts first third :=
  fun consistent => late (early consistent)

/-- What follows a question that was answered starts on a connection that is of use. -/
theorem after_ask (query : Query α) {next : α → GatewayM (StateM σ) β}
    (preserves : ∀ answer (session : Session (StateM σ)) world connection,
      session.gateway.wallet = .ok connection → session.gateway.Consistent attempts →
        (next answer session world).1.2.gateway.Consistent attempts) :
    GatewayM.Keeps (Preserves attempts) (Gateway.ask query >>= next) := by
  intro session world consistent
  cases found : session.gateway.wallet with
  | error error =>
      rw [GatewayM.bind_error (Gateway.ask_refused found world)]
      exact consistent
  | ok connection =>
      rw [GatewayM.bind_eq, Gateway.ask_connected found]
      dsimp only
      rcases connection.answer session.gateway.undelivered query world with
        ⟨⟨error | answer, traffic⟩, later⟩
      · exact consistent.counted found traffic
      · apply preserves answer _ _ (connection.after traffic)
        · have usable := Gateway.usable_of_wallet found
          simp [Gateway.wallet, Session.answered, Session.setConnection, Session.record, usable]
        · exact consistent.counted found traffic

theorem inquire (query : Query α) :
    GatewayM.Keeps (Preserves attempts) (Gateway.inquire (m := StateM σ) query) := by
  intro session world consistent
  cases found : session.gateway.wallet with
  | error error =>
      rw [Gateway.inquire_refused found]
      exact consistent
  | ok connection =>
      rw [Gateway.inquire_connected found]
      exact consistent.counted found _

theorem framed (attempts : Nat) (scope : Scope) :
    Framed scope (Preserves (m := StateM σ) attempts) where
  refl _ := id
  trans := trans
  told _ _ := id
  asked _ _ := inquire _
  joined _ := by
    apply after_ask
    intro network session world connection connected consistent
    rw [Gateway.current_bind]
    cases checked : session.gateway.config.checkNetwork network with
    | error error => exact consistent
    | ok accepted => exact consistent.joined connected checked
  loaded _ := by
    apply after_ask
    intro found session world connection connected consistent
    cases found with
    | none => exact consistent
    | some account => exact consistent.loaded connected account
  resolved _ kind address session world := by
    rw [Gateway.resolve_eq]
    apply after_ask
    intro found later laterWorld connection connected consistent
    exact consistent.learned connected found.2

end Session.Preserves

/-! ## Operations -/

namespace Gateway

theorem connect_consistent (endpoint : Endpoint (StateM σ)) {gateway : Gateway (StateM σ)}
    {attempts : Nat} (counted : gateway.generation = UInt64.ofNat attempts) (world : σ) :
    (connect endpoint (.start gateway) world).1.2.gateway.Consistent (attempts + 1) := by
  have forgotten : gateway.disconnected.Consistent (attempts + 1) := .disconnected counted
  have opens (connection : Connection (StateM σ)) (info : WalletInfo)
      (ends : (Connection.open endpoint gateway.config (gateway.generation + 1)
        gateway.undelivered world).1.1 = .ok (connection, info)) :=
    Connection.open_ok ends
  rw [connect_eq]
  revert opens
  rcases Connection.open endpoint gateway.config (gateway.generation + 1) gateway.undelivered
    world with ⟨⟨error | ⟨connection, info⟩, traffic⟩, later⟩
  · intro _
    exact { forgotten with }
  · intro opens
    have same := opens connection info rfl
    have opened : (opened (.start gateway.disconnected) connection info
        traffic).gateway.Consistent (attempts + 1) :=
      { forgotten with
        usable := by simp [Gateway.opened, Session.record, Session.start, disconnected]
        current := by
          rintro _ ⟨⟩
          exact same
        unlearned := fun _ => rfl }
    exact (Session.Preserves.framed (attempts + 1) .greeting).keeps (.greet info) _ later opened

end Gateway

theorem Operation.action_consistent (operation : Operation (StateM σ))
    {gateway : Gateway (StateM σ)} {attempts : Nat} (consistent : gateway.Consistent attempts)
    (world : σ) :
    (operation.action (.start gateway) world).1.2.gateway.Consistent
      (if operation.endpoint?.isSome then attempts + 1 else attempts) := by
  cases connects : operation.endpoint? with
  | none =>
      have preserves := (Session.Preserves.framed attempts operation.scope).keeps
        (operation.action_composed connects)
      exact preserves (.start gateway) world consistent
  | some endpoint =>
      rw [action_connects connects]
      exact Gateway.connect_consistent endpoint consistent.generation_eq world

/-- Typed data is signed for the wallet that the gateway reports. -/
theorem Gateway.Consistent.signData_eq {gateway : Gateway (StateM σ)} {attempts : Nat}
    (consistent : gateway.Consistent attempts) (account : Address) (data : Json) (world : σ) :
    signData account data (.start gateway) world =
      ask (.signData gateway.walletInfo.flavor account data) (.start gateway) world := by
  change (do
    let connection ← require gateway.wallet
    ask (.signData connection.flavor account data) : GatewayM (StateM σ) String)
      (.start gateway) world = _
  cases found : gateway.wallet with
  | error error =>
      have refused : (Session.start gateway).gateway.wallet = .error error := found
      rw [ask_refused refused]
      rfl
  | ok connection =>
      rw [GatewayM.bind_ok (require_eq _ _ _),
        (consistent.current (connection_of_wallet found)).2]

/-! ## Histories -/

/-- The attempts to connect in a history. -/
def attempts (history : List (Step σ)) : Nat :=
  history.countP (·.operation.endpoint?.isSome)

theorem attempts_cons (step : Step σ) (history : List (Step σ)) :
    attempts (step :: history) =
      if step.operation.endpoint?.isSome then attempts history + 1 else attempts history := by
  simp only [attempts, List.countP_cons]
  split <;> rfl

/-- A wallet on the main network. It lists the accounts that the world holds. -/
def accountHolder : Wallet (StateM Json) where
  request := fun request => do
    let accounts ← get
    return .ok (.success request.id
      (if request.method = "eth_accounts" then accounts else .string "1"))
  schedule := .inTurn
  isMetamask := true
  enable := pure (.ok ())

namespace Step

def meeting : Step Json where
  operation := .connect (.direct accountHolder)
  gateway := .new { Config.standard with requiredChainId := some 1 }
  world := .null

/-- The first account is the zero address. -/
def loading : Step Json where
  operation := .getAccount
  gateway := meeting.next
  world := .list [.string "0x0000000000000000000000000000000000000000"]

end Step

namespace Run

variable {config : Config} {history : List (Step σ)} {gateway : Gateway (StateM σ)}

theorem consistent (run : Run config history gateway) :
    gateway.Consistent (attempts history) := by
  induction run with
  | new => exact .new config
  | @step history gateway run goesOn operation world induction =>
      rw [attempts_cons]
      exact operation.action_consistent induction world

/-- Over every history the parts of the state agree, the attempts to connect are counted,
and typed data is signed for the wallet that is reported. -/
theorem state_consistent (run : Run config history gateway) :
    gateway.config = config ∧ gateway.Consistent (attempts history) ∧
      ∀ account data world, Gateway.signData account data (.start gateway) world =
        Gateway.ask (.signData gateway.walletInfo.flavor account data) (.start gateway) world :=
  ⟨run.config_eq, run.consistent, run.consistent.signData_eq⟩

/-- An account of the right network is loaded. -/
theorem loading_run :
    Run { Config.standard with requiredChainId := some 1 } [Step.loading, Step.meeting]
      Step.loading.next :=
  .step (.step .new rfl Step.meeting.operation Step.meeting.world) rfl Step.loading.operation
    Step.loading.world

theorem loaded_state_consistent :
    Run { Config.standard with requiredChainId := some 1 } [Step.loading, Step.meeting]
        Step.loading.next ∧
      Step.loading.next.account = some .zero ∧ Step.loading.next.networkId = some 1 ∧
      Step.loading.next.config = { Config.standard with requiredChainId := some 1 } ∧
      Step.loading.next.Consistent (attempts [Step.loading, Step.meeting]) ∧
      ∀ account data world, Gateway.signData account data (.start Step.loading.next) world =
        Gateway.ask (.signData Step.loading.next.walletInfo.flavor account data)
          (.start Step.loading.next) world :=
  ⟨loading_run, rfl, rfl, state_consistent loading_run⟩

end Run

end LockGateway
