import LockGateway.Proofs.Gateway.History

/-! Which wallet a gateway reports. The report is that of the latest connection that was
opened. An attempt that opens none drops the connection there was but not its report, so a
gateway without a connection may still report a wallet. -/

namespace LockGateway

variable {m : Type → Type} {σ α : Type}

/-! ## Attempts -/

namespace Gateway

theorem SameConnection.isSome_eq {before after : Gateway m} (same : before.SameConnection after) :
    after.connection.isSome = before.connection.isSome := by
  have equal := congrArg Option.isSome same.connection
  rwa [Option.isSome_map, Option.isSome_map] at equal

end Gateway

/-- The same wallet is reported, and there is a connection if there was one. -/
structure Session.Reports (before after : Session m) : Prop where
  walletInfo : after.gateway.walletInfo = before.gateway.walletInfo
  connection : after.gateway.connection.isSome = before.gateway.connection.isSome

namespace Session.Reports

theorem of_same {before after : Session m} (same : before.gateway.SameConnection after.gateway) :
    Reports before after :=
  ⟨same.walletInfo, same.isSome_eq⟩

theorem trans {first second third : Session m} (early : Reports first second)
    (late : Reports second third) : Reports first third :=
  ⟨late.walletInfo.trans early.walletInfo, late.connection.trans early.connection⟩

theorem ask (query : Query α) : GatewayM.Keeps Reports (Gateway.ask (m := StateM σ) query) :=
  fun session world => .of_same (Session.Stays.ask query session world).connection

theorem framed (scope : Scope) : Framed scope (Reports (m := StateM σ)) where
  refl _ := ⟨rfl, rfl⟩
  trans := trans
  told _ _ := ⟨rfl, rfl⟩
  asked _ _ session world := .of_same (Session.Stays.inquire _ session world).connection
  joined _ session world := by
    have asks := ask Query.network session world
    rw [Gateway.joinNetwork_eq]
    revert asks
    rcases Gateway.ask Query.network session world with ⟨⟨error | network, after⟩, later⟩
    · exact id
    · intro asks
      dsimp only
      cases after.gateway.config.checkNetwork network with
      | error error => exact ⟨asks.walletInfo, asks.connection⟩
      | ok accepted => exact ⟨asks.walletInfo, asks.connection⟩
  loaded _ := by
    apply GatewayM.Keeps.bind .trans (ask _)
    intro found
    cases found with
    | none => exact fun _ _ => ⟨rfl, rfl⟩
    | some account => exact fun _ _ => ⟨rfl, rfl⟩
  resolved _ kind address session world := by
    rw [Gateway.resolve_eq]
    exact GatewayM.Keeps.bind .trans (ask _) (fun _ _ _ => ⟨rfl, rfl⟩) session world

end Session.Reports

namespace Gateway

/-- After an attempt there is a connection if one was opened, and then its wallet is
reported. Otherwise the report stays. -/
theorem connect_reports (endpoint : Endpoint (StateM σ)) (gateway : Gateway (StateM σ))
    (world : σ) {outcome : Except GatewayError (Connection (StateM σ) × WalletInfo)}
    (opens : (Connection.open endpoint gateway.config (gateway.generation + 1)
      gateway.undelivered world).1.1 = outcome) :
    let after := (connect endpoint (.start gateway) world).1.2.gateway
    after.walletInfo = (outcome.toOption.map (·.2)).getD gateway.walletInfo ∧
      after.connection.isSome = outcome.toOption.isSome := by
  dsimp only
  rw [connect_eq]
  revert opens
  rcases Connection.open endpoint gateway.config (gateway.generation + 1) gateway.undelivered
    world with ⟨⟨error | ⟨connection, info⟩, traffic⟩, later⟩
  · rintro rfl
    exact ⟨rfl, rfl⟩
  · rintro rfl
    have reports := (Session.Reports.framed .greeting).keeps (.greet info)
      (opened (.start gateway.disconnected) connection info traffic) later
    exact ⟨reports.walletInfo, reports.connection⟩

end Gateway

/-! ## Steps -/

namespace Step

/-- The wallet that an attempt to connect found, if it came as far as a connection. -/
def opened? (step : Step σ) : Option WalletInfo :=
  step.operation.endpoint?.bind fun endpoint =>
    (Connection.open endpoint step.gateway.config (step.gateway.generation + 1)
      step.gateway.undelivered step.world).1.1.toOption.map (·.2)

/-- An attempt to connect leaves behind what it leaves behind for `Gateway.connect`. -/
theorem next_connect (step : Step σ) {endpoint : Endpoint (StateM σ)}
    (connects : step.operation.endpoint? = some endpoint) :
    step.next = (Gateway.connect endpoint (.start step.gateway) step.world).1.2.gateway :=
  congrArg Session.gateway (step.connecting connects).2

theorem next_walletInfo (step : Step σ) :
    step.next.walletInfo = step.opened?.getD step.gateway.walletInfo := by
  cases connects : step.operation.endpoint? with
  | none =>
      rw [opened?, connects]
      exact (step.stays connects).connection.walletInfo
  | some endpoint =>
      rw [step.next_connect connects, opened?, connects]
      exact (Gateway.connect_reports endpoint step.gateway step.world rfl).1

/-- An attempt decides alone whether there is a connection afterwards. -/
theorem next_isSome (step : Step σ) (connecting : step.operation.endpoint?.isSome) :
    step.next.connection.isSome = step.opened?.isSome := by
  rcases Option.isSome_iff_exists.mp connecting with ⟨endpoint, connects⟩
  rw [step.next_connect connects, opened?, connects, Option.bind_some, Option.isSome_map]
  exact (Gateway.connect_reports endpoint step.gateway step.world rfl).2

end Step

/-! ## A wallet that is gone

A wallet in the same process is connected, and then the local node, whose URL a strict
configuration does not leave open. -/

namespace Step

def opening : Step Unit where
  operation := .connect (.direct
    { request := fun request => pure (.ok (.success request.id (.string "1")))
      schedule := .inTurn
      isMetamask := true
      enable := pure (.ok ()) })
  gateway := .new { Config.standard with profile := .production }
  world := ()

def losing : Step Unit where
  operation := .reconnect (.localRpc (fun _ _ => pure .unreachable) .inTurn)
  gateway := opening.next
  world := ()

end Step

/-! ## Histories -/

namespace Run

variable {config : Config} {history : List (Step σ)} {gateway : Gateway (StateM σ)}

theorem walletInfo_eq (run : Run config history gateway) :
    gateway.walletInfo = (history.findSome? Step.opened?).getD .unavailable := by
  induction run with
  | new => rfl
  | @step history gateway run goesOn operation world induction =>
      rw [Step.next_walletInfo, List.findSome?_cons]
      cases Step.opened? ⟨operation, gateway, world⟩ with
      | none => exact induction
      | some info => rfl

theorem connection_eq_none_iff (run : Run config history gateway) :
    gateway.connection = none ↔ (latestAttempt? history).bind Step.opened? = none := by
  cases latest : latestAttempt? history with
  | none => simp [run.disconnected latest]
  | some attempt =>
      rcases run.latest latest with ⟨_, connecting, same⟩
      have opened := same.isSome_eq.trans (attempt.next_isSome connecting)
      rw [Option.bind_some, ← Option.isNone_iff_eq_none, ← Option.isNone_iff_eq_none,
        ← Option.not_isSome, opened, Option.not_isSome]

/-- Over every history the wallet of the latest connection that was opened is reported, and
none before there was one. There is no connection just if the latest attempt opened none;
then no wallet is reported only if that earlier connection had none either. -/
theorem reported_wallet (run : Run config history gateway) :
    gateway.walletInfo = (history.findSome? Step.opened?).getD .unavailable ∧
      (gateway.connection = none ↔ (latestAttempt? history).bind Step.opened? = none) ∧
      (gateway.connection = none →
        (gateway.walletInfo = .unavailable ↔
          ∀ info, history.findSome? Step.opened? = some info → info = .unavailable)) := by
  refine ⟨run.walletInfo_eq, run.connection_eq_none_iff, ?_⟩
  intro _
  rw [run.walletInfo_eq]
  cases history.findSome? Step.opened? with
  | none => simp
  | some info => simp

theorem losing_run :
    Run { Config.standard with profile := .production } [Step.losing, Step.opening]
      Step.losing.next :=
  .step (.step .new rfl Step.opening.operation ()) rfl Step.losing.operation ()

theorem lost_wallet_report :
    Run { Config.standard with profile := .production } [Step.losing, Step.opening]
        Step.losing.next ∧
      Step.losing.next.connection = none ∧
      Step.losing.next.walletInfo =
        ([Step.losing, Step.opening].findSome? Step.opened?).getD .unavailable ∧
      (Step.losing.next.connection = none ↔
        (latestAttempt? [Step.losing, Step.opening]).bind Step.opened? = none) ∧
      (Step.losing.next.connection = none →
        (Step.losing.next.walletInfo = .unavailable ↔
          ∀ info, [Step.losing, Step.opening].findSome? Step.opened? = some info →
            info = .unavailable)) :=
  ⟨losing_run, rfl, reported_wallet losing_run⟩

/-- The wallet is still reported, and as one that can be used. -/
theorem lost_wallet_reported :
    ¬ ∀ (config : Config) (history : List (Step Unit)) (gateway : Gateway (StateM Unit)),
      Run config history gateway → gateway.connection = none →
      gateway.walletInfo = .unavailable := by
  intro forgotten
  have unavailable := forgotten _ _ _ losing_run rfl
  have reported : Step.losing.next.walletInfo = .available .metaMask := rfl
  rw [reported] at unavailable
  cases unavailable

end Run

end LockGateway
