import LockGateway.Proofs.Gateway.Refusal

/-! A gateway whose relay leads to a hosted account. The account is connected to and loaded,
and that is all there is to it: the host knows nothing of contracts, transactions and
signatures, so that every other operation fails with its first question. Without an account
nothing is asked at all. -/

namespace LockGateway

variable {σ α : Type} {account : Address} {network : UInt64} {capacity : Nat}
  {schedule : Schedule}

/-! ## On a host -/

/-- The gateway is on a connection to a hosted account, and knows of no contract. -/
structure Gateway.Hosted (account : Address) (network : UInt64) (capacity : Nat)
    (schedule : Schedule) (gateway : Gateway (StateM σ)) : Prop where
  connected : ∃ connection, gateway.wallet = .ok connection ∧ connection.flavor = .generic ∧
    connection.backend =
      .relay (RelayHost.userAccount (some account) network).answer capacity schedule
  networkId : gateway.networkId = some network
  unlearned : gateway.versions = .empty

/-- A query that starts with what the host does not know fails at once. -/
theorem Connection.answer_unsupported {connection : Connection (StateM σ)}
    (hosted : connection.backend =
      .relay (RelayHost.userAccount (some account) network).answer capacity schedule)
    {query : Query α} {method : String} (hinges : query.HingesOn method)
    (unsupported : RelayHost.Unsupported method) (undelivered : List (Delivery (StateM σ)))
    (world : σ) : ∃ error, (connection.answer undelivered query world).1.1 = .error error := by
  rcases hinges with ⟨params, resume, rfl, fails⟩
  let host := RelayHost.userAccount (m := StateM σ) (some account) network
  have refused : ((Backend.relay host.answer capacity schedule).caller.call method (.list params)
      (.start connection.numbered undelivered) world).1.1.Refuses :=
    RelayHost.call_unsupported unsupported params capacity schedule _ world
  rcases fails _ refused with ⟨error, failed⟩
  refine ⟨error, ?_⟩
  change ((Query.call method (.list params) resume).runWith connection.backend.caller
    (.start connection.numbered undelivered) world).1.1 = _
  rw [hosted, Query.runWith_call]
  dsimp only
  rw [failed]
  rfl

namespace Gateway.Hosted

variable {gateway : Gateway (StateM σ)}

theorem of_unchanged {after : Gateway (StateM σ)}
    (hosted : gateway.Hosted account network capacity schedule)
    (unchanged : gateway.Unchanged after) : after.Hosted account network capacity schedule where
  connected := by
    rcases hosted.connected with ⟨connection, usable, generic, host⟩
    rcases unchanged.connection.wallet_ok usable with ⟨later, stillUsable, same⟩
    exact ⟨later, stillUsable, (congrArg Connection.flavor same).trans generic,
      (congrArg Connection.backend same).trans host⟩
  networkId := unchanged.connection.networkId.trans hosted.networkId
  unlearned := unchanged.versions.trans hosted.unlearned

/-- Whatever is asked of contracts, transactions and signatures is refused. -/
theorem stuck (hosted : gateway.Hosted account network capacity schedule) :
    gateway.Stuck fun _ after => gateway.Unchanged after.gateway ∧ after.events = [] := by
  rcases hosted.connected with ⟨connection, usable, _, host⟩
  have connected : (Session.start gateway).gateway.wallet = .ok connection := usable
  have asked {γ : Type} {query : Query γ} {method : String} (hinges : query.HingesOn method)
      (unsupported : RelayHost.Unsupported method) :
      GatewayM.Fails (fun _ after => gateway.Unchanged after.gateway ∧ after.events = [])
        (Gateway.ask query) (.start gateway) := by
    intro world
    let answered := connection.answer gateway.undelivered query world
    have refused : ∃ error, answered.1.1 = .error error :=
      Connection.answer_unsupported host hinges unsupported gateway.undelivered world
    rcases refused with ⟨error, failed⟩
    refine ⟨error, (Session.start gateway).answered connection answered.1.2, answered.2, ?_,
      Gateway.answered_unchanged connected _, rfl⟩
    rw [Gateway.ask_connected connected]
    change ((answered.1.1, _), _) = _
    rw [failed]
    rfl
  refine
    { wallet := fun _ _ => ⟨.refl gateway, rfl⟩
      signer := fun _ _ _ => ⟨.refl gateway, rfl⟩
      ask := asked
      resolve := ?_ }
  -- Nothing is known of any contract, so its code is asked for before its version. A refusal
  -- of that question is never taken for an old version.
  intro kind address world
  have fresh : gateway.versions.cached? kind address = none := by
    rw [hosted.unlearned]
    rfl
  rw [Gateway.resolve_eq]
  exact (asked (.resolve fresh) (by constructor <;> decide)).bind _ world

/-- The host lists its account. -/
theorem listed (hosted : gateway.Hosted account network capacity schedule) (world : σ) :
    gateway.listedAccount world = .ok (some account) := by
  rcases hosted.connected with ⟨connection, usable, _, leads⟩
  let host := RelayHost.userAccount (m := StateM σ) (some account) network
  have listed : ((Backend.relay host.answer capacity schedule).caller.call "eth_accounts" (.list [])
      (.start connection.numbered gateway.undelivered) world).1.1.result =
        .ok (.list [.string account.checksumText]) :=
    RelayHost.call_accounts capacity schedule _ world
  rw [Gateway.listedAccount, Gateway.replyTo, usable]
  dsimp only
  rw [leads, Reply.firstAccount, listed]
  change ((Address.ofText account.checksumText).mapError _ >>= _) = _
  rw [Address.ofText_checksumText]
  rfl

/-- To load the account is all that changes on a host. -/
theorem loaded {after : Gateway (StateM σ)} {events : List Event}
    (hosted : gateway.Hosted account network capacity schedule)
    (loads : gateway.Loads (.ok (some account)) events after) :
    events = [.accountChanged account, .ready] ∧
      after.Hosted account network capacity schedule := by
  cases loads with
  | found unchanged =>
      have still := hosted.of_unchanged unchanged
      exact ⟨rfl, still.connected, still.networkId, still.unlearned⟩

end Gateway.Hosted

/-! ## Steps -/

/-- The account is loaded, and every other operation fails. Nobody is told of more than the
account, and the gateway stays on its host. -/
structure Step.Serves (account : Address) (network : UInt64) (capacity : Nat)
    (schedule : Schedule) (step : Step σ) : Prop where
  loads (loading : step.operation = .getAccount) :
    step.turn.outcome = .ok (.account (some account)) ∧
      step.turn.events = [.accountChanged account, .ready]
  fails (other : step.operation ≠ .getAccount) :
    (∃ error, step.turn.failure? = some error) ∧ step.turn.events = []
  hosted : step.next.Hosted account network capacity schedule

theorem Gateway.Hosted.serves {step : Step σ}
    (hosted : step.gateway.Hosted account network capacity schedule)
    (stays : step.operation.endpoint? = none) : step.Serves account network capacity schedule := by
  rcases step with ⟨operation, gateway, world⟩
  dsimp only at hosted stays
  by_cases loading : operation = .getAccount
  · subst loading
    rcases Step.load_loads gateway world with ⟨outcome, loads⟩
    rw [hosted.listed] at outcome loads
    rcases hosted.loaded loads with ⟨told, stillHosted⟩
    exact
      { loads := fun _ => ⟨outcome, told⟩
        fails := fun other => absurd rfl other
        hosted := stillHosted }
  · rcases hosted.stuck.action_fails stays loading world with
      ⟨error, failed, unchanged, untold⟩
    exact
      { loads := fun same => absurd same loading
        fails := fun _ => ⟨⟨error, failed⟩, untold⟩
        hosted := hosted.of_unchanged unchanged }

/-! ## Attempts to connect -/

namespace Gateway

variable {gateway : Gateway (StateM σ)}

/-- An attempt to connect to a hosted account gets to its network. -/
theorem connect_hosted (accepted : gateway.config.checkNetwork network = .ok ()) (world : σ) :
    let host := RelayHost.userAccount (some account) network
    let attempt := connect (.relay host.answer capacity schedule) (.start gateway) world
    attempt.1.1 = .ok (.available .generic) ∧
      attempt.1.2.events = [.walletInfo (.available .generic), .networkChanged network] ∧
      attempt.1.2.gateway.Hosted account network capacity schedule := by
  intro host attempt
  let backend := Backend.relay host.answer capacity schedule
  let later := backend.carrier.arrival (.start 0 gateway.undelivered) world
  let connection : Connection (StateM σ) :=
    { backend, flavor := .generic, generation := gateway.generation + 1, numbered := 1 }
  let session := opened (.start gateway.disconnected) connection (.available .generic)
    (backend.carrier.called (.start 0 gateway.undelivered) walletInfoRequest)
  let answered := connection.answer session.gateway.undelivered .network later
  let joined := session.answered connection answered.1.2
  have connected : session.gateway.wallet = .ok connection := rfl
  have said : answered.1.1 = .ok network := Connection.network_hosted rfl _ later
  have asks : ask .network session later = ((.ok network, joined), answered.2) := by
    rw [ask_connected connected]
    change ((answered.1.1, joined), answered.2) = _
    rw [said]
  have checked : joined.gateway.config.checkNetwork network = .ok () := accepted
  have joins : joinNetwork session later =
      ((.ok (), { joined with
        gateway := { joined.gateway with networkId := some network }
        events := joined.events ++ [.networkChanged network] }), answered.2) := by
    rw [joinNetwork_eq, asks]
    dsimp only
    rw [checked]
  have greeted : attempt = (joinNetwork >>= fun _ => pure (.available .generic)) session later := by
    change connect (.relay host.answer capacity schedule) (.start gateway) world = _
    rw [connect_eq, Connection.open_host]
    rfl
  rw [greeted, GatewayM.bind_ok joins]
  exact ⟨rfl, rfl, ⟨_, rfl, rfl, rfl⟩, rfl, rfl⟩

/-- An attempt to connect to a host without an account ends with its wallet. -/
theorem connect_deserted (world : σ) :
    let host : RelayHost (StateM σ) := .userAccount none network
    let attempt := connect (.relay host.answer capacity schedule) (.start gateway) world
    attempt.1.1 = .ok .unavailable ∧ attempt.1.2.events = [.walletInfo .unavailable] ∧
      attempt.1.2.gateway.wallet = .error .noWalletAvailable := by
  intro host attempt
  let backend := Backend.relay host.answer capacity schedule
  have greeted : attempt = (pure .unavailable : GatewayM (StateM σ) WalletInfo)
      (opened (.start gateway.disconnected)
        { backend, flavor := .generic, generation := gateway.generation + 1, numbered := 1 }
        .unavailable (backend.carrier.called (.start 0 gateway.undelivered) walletInfoRequest))
      (backend.carrier.arrival (.start 0 gateway.undelivered) world) := by
    change connect (.relay host.answer capacity schedule) (.start gateway) world = _
    rw [connect_eq, Connection.open_host]
    rfl
  rw [greeted]
  exact ⟨rfl, rfl, rfl⟩

end Gateway

namespace Step

/-- The attempt succeeds, and comes to the hosted account and its network. -/
structure Enters (account : Address) (network : UInt64) (capacity : Nat)
    (schedule : Schedule) (attempt : Step σ) : Prop where
  outcome : attempt.turn.outcome = .ok (.walletInfo (.available .generic))
  events : attempt.turn.events = [.walletInfo (.available .generic), .networkChanged network]
  hosted : attempt.next.Hosted account network capacity schedule

/-- The attempt succeeds, but there is no wallet. -/
structure FindsNobody (attempt : Step σ) : Prop where
  outcome : attempt.turn.outcome = .ok (.walletInfo .unavailable)
  events : attempt.turn.events = [.walletInfo .unavailable]
  useless : attempt.next.wallet = .error .noWalletAvailable

/-- Nothing is done, for want of a wallet. -/
structure WantsWallet (step : Step σ) : Prop where
  failed : step.turn.failure? = some .noWalletAvailable
  issued : step.turn.issued = []
  events : step.turn.events = []
  same : step.next = step.gateway

variable {attempt : Step σ}

theorem enters (connects : attempt.operation.endpoint? =
      some (.relay (RelayHost.userAccount (some account) network).answer capacity schedule))
    (accepted : attempt.gateway.config.checkNetwork network = .ok ()) :
    attempt.Enters account network capacity schedule := by
  rcases Gateway.connect_hosted accepted attempt.world with ⟨outcome, events, hosted⟩
  rcases attempt.connecting connects with ⟨answered, ended⟩
  exact
    { outcome := answered.trans (congrArg (Except.map Answer.walletInfo) outcome)
      events := (congrArg Session.events ended).trans events
      hosted := by
        have reached := congrArg Session.gateway ended
        change attempt.next = _ at reached
        rw [reached]
        exact hosted }

theorem findsNobody (connects : attempt.operation.endpoint? =
      some (.relay (RelayHost.userAccount none network).answer capacity schedule)) :
    attempt.FindsNobody := by
  rcases attempt.connecting connects with ⟨answered, ended⟩
  rcases Gateway.connect_deserted attempt.world with ⟨outcome, events, useless⟩
  exact
    { outcome := answered.trans (congrArg (Except.map Answer.walletInfo) outcome)
      events := (congrArg Session.events ended).trans events
      useless := (congrArg (fun session => session.gateway.wallet) ended).trans useless }

theorem wantsWallet {step : Step σ} (stays : step.operation.endpoint? = none)
    (useless : step.gateway.wallet = .error .noWalletAvailable) : step.WantsWallet := by
  rcases step.refused useless stays with ⟨failed, ended⟩
  exact
    { failed
      issued := congrArg Session.issued ended
      events := congrArg Session.events ended
      same := congrArg Session.gateway ended }

end Step

/-! ## Runs -/

namespace Step

/-- Connects to a host. -/
def visiting (found : Option Address) : Step Unit where
  operation := .connect (.relay (RelayHost.userAccount found 1984).answer 1 .inTurn)
  gateway := .new { Config.standard with requiredChainId := some 1984 }
  world := ()

/-- Reads a lock, and loads the account after that. -/
def viewing (found : Option Address) : List (Step Unit) :=
  let reading : Step Unit := ⟨.getLock .zero, (visiting found).next, ()⟩
  [load reading.next (), reading]

end Step

namespace Run

variable {config : Config} {later earlier : List (Step σ)} {attempt : Step σ}
  {gateway : Gateway (StateM σ)}

/-- What an attempt to connect brings about, and every step keeps that does not connect,
holds until the next attempt. -/
theorem since (holds : Gateway (StateM σ) → Prop)
    (run : Run config (later ++ attempt :: earlier) gateway)
    (stays : ∀ step ∈ later, step.operation.endpoint? = none)
    (starts : holds attempt.next)
    (keeps : ∀ step : Step σ, step.operation.endpoint? = none → holds step.gateway →
      holds step.next) :
    holds gateway ∧ ∀ step ∈ later, holds step.gateway := by
  induction later generalizing gateway with
  | nil =>
      cases run with
      | step run goesOn operation world => exact ⟨starts, List.forall_mem_nil _⟩
  | cons step rest induction =>
      rw [List.forall_mem_cons] at stays ⊢
      cases run with
      | step run goesOn operation world =>
          rcases induction run stays.2 with ⟨before, earlier⟩
          exact ⟨keeps _ stays.1 before, before, earlier⟩

/-- An attempt to connect is made under the settings of the gateway. -/
theorem attempt_config (run : Run config (later ++ attempt :: earlier) gateway) :
    attempt.gateway.config = config := by
  induction later generalizing gateway with
  | nil =>
      cases run with
      | step run goesOn operation world => exact run.config_eq
  | cons step rest induction =>
      cases run with
      | step run goesOn operation world => exact induction run

/-- From an attempt to connect to a relay that leads to a hosted account, up to the next
attempt: with an account, the gateway comes to its network if it may, loads just that
account, and fails with everything else, so that nobody is told of a transaction or a lock
and no version is learned. Without an account there is no wallet, and nothing is even
asked. -/
theorem hosted_account_served {found : Option Address}
    (run : Run config (later ++ attempt :: earlier) gateway)
    (connects : attempt.operation.endpoint? =
      some (.relay (RelayHost.userAccount found network).answer capacity schedule))
    (stays : ∀ step ∈ later, step.operation.endpoint? = none) :
    (∀ account, found = some account →
      config.requiredChainId = none ∨ config.requiredChainId = some network →
        attempt.Enters account network capacity schedule ∧
          ∀ step ∈ later, step.Serves account network capacity schedule) ∧
      (found = none → attempt.FindsNobody ∧ ∀ step ∈ later, step.WantsWallet) := by
  constructor
  · rintro account rfl allowed
    have accepted : attempt.gateway.config.checkNetwork network = .ok () := by
      rw [run.attempt_config]
      exact Config.checkNetwork_ok_iff.mpr allowed
    have enters := Step.enters connects accepted
    have serves (step : Step σ) (stays : step.operation.endpoint? = none)
        (hosted : step.gateway.Hosted account network capacity schedule) :
        step.Serves account network capacity schedule :=
      hosted.serves stays
    have hosted := run.since (Gateway.Hosted account network capacity schedule) stays enters.hosted
      fun step stays hosted => (serves step stays hosted).hosted
    exact ⟨enters, fun step member => serves step (stays step member) (hosted.2 step member)⟩
  · rintro rfl
    have nobody := Step.findsNobody connects
    have useless := run.since (·.wallet = .error .noWalletAvailable) stays nobody.useless
      fun step stays useless => by
        rw [(Step.wantsWallet stays useless).same]
        exact useless
    exact ⟨nobody, fun step member => Step.wantsWallet (stays step member) (useless.2 step member)⟩

theorem visits_served :
    ((Step.visiting (some .zero)).Enters .zero 1984 1 .inTurn ∧
        ∀ step ∈ Step.viewing (some .zero), step.Serves .zero 1984 1 .inTurn) ∧
      (Step.visiting none).FindsNobody ∧ ∀ step ∈ Step.viewing none, step.WantsWallet := by
  let config := { Config.standard with requiredChainId := some 1984 }
  have accounted : Run config (Step.viewing (some .zero) ++ Step.visiting (some .zero) :: []) _ :=
    .step (.step (.step .new rfl _ ()) rfl _ ()) rfl _ ()
  have deserted : Run config (Step.viewing none ++ Step.visiting none :: []) _ :=
    .step (.step (.step .new rfl _ ()) rfl _ ()) rfl _ ()
  have stays (found : Option Address) :
      ∀ step ∈ Step.viewing found, step.operation.endpoint? = none := by
    simp only [Step.viewing, List.forall_mem_cons]
    exact ⟨rfl, rfl, List.forall_mem_nil _⟩
  exact ⟨(hosted_account_served accounted rfl (stays _)).1 .zero rfl (.inr rfl),
    (hosted_account_served deserted rfl (stays _)).2 rfl⟩

end Run

end LockGateway
