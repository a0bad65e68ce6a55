import LockGateway.Proofs.Gateway.Composition

/-! What operations do to the connection of a gateway, and histories of a gateway:
an attempt to connect decides about the connection, and every other operation
stays on it. -/

namespace LockGateway

variable {m : Type → Type} {σ α β : Type}

/-! ## Staying on a connection -/

/-- The gateway stays on its connection, and sends nothing if that is of no use. -/
structure Session.Stays (before after : Session m) : Prop where
  connection : before.gateway.SameConnection after.gateway
  unused (error : GatewayError) (refused : before.gateway.wallet = .error error) :
    after.issued = before.issued

namespace Session.Stays

theorem refl (session : Session m) : Stays session session :=
  ⟨.refl _, fun _ _ => rfl⟩

theorem trans {first second third : Session m} (early : Stays first second)
    (late : Stays second third) : Stays first third where
  connection := early.connection.trans late.connection
  unused error refused :=
    (late.unused error (early.connection.wallet_error refused)).trans (early.unused error refused)

theorem inquire (query : Query α) :
    GatewayM.Keeps Stays (Gateway.inquire (m := StateM σ) query) := by
  intro session world
  cases found : session.gateway.wallet with
  | error error =>
      rw [Gateway.inquire_refused found]
      exact .refl session
  | ok connection =>
      rw [Gateway.inquire_connected found]
      refine ⟨Gateway.answered_same found _, ?_⟩
      intro error refused
      rw [found] at refused
      cases refused

theorem ask (query : Query α) : GatewayM.Keeps Stays (Gateway.ask (m := StateM σ) query) :=
  .bind .trans (inquire query) fun _ => .of_same .refl fun _ _ => rfl

/-- What is put down beside the connection and its network. -/
theorem beside {before after : Session m} (same : before.gateway.SameConnection after.gateway)
    (issued : after.issued = before.issued) : Stays before after :=
  ⟨same, fun _ _ => issued⟩

theorem framed {scope : Scope} (joinsNone : scope.network = false) :
    Framed scope (Stays (m := StateM σ)) where
  refl := refl
  trans := trans
  told _ session := .beside (.refl session.gateway) rfl
  asked _ _ := inquire _
  joined may := by
    rw [joinsNone] at may
    cases may
  loaded _ := by
    apply GatewayM.Keeps.bind .trans (ask _)
    intro found
    cases found with
    | none => exact .of_same .refl fun _ _ => rfl
    | some account => exact fun _ _ => .beside ⟨rfl, rfl, rfl, rfl, rfl⟩ rfl
  resolved _ kind address session world := by
    rw [Gateway.resolve_eq]
    apply GatewayM.Keeps.bind .trans (ask _)
    intro found
    exact fun _ _ => .beside ⟨rfl, rfl, rfl, rfl, rfl⟩ rfl

end Session.Stays

namespace Operation

theorem action_stays (operation : Operation (StateM σ)) (stays : operation.endpoint? = none) :
    GatewayM.Keeps Session.Stays operation.action := by
  have joinsNone : operation.scope.network = false := by
    cases operation with
    | connect endpoint | reconnect endpoint => cases stays
    | _ => rfl
  exact (Session.Stays.framed joinsNone).keeps (operation.action_composed stays)

end Operation

/-! ## Histories -/

/-- An operation that is performed on a gateway in some world. -/
structure Step (σ : Type) where
  operation : Operation (StateM σ)
  gateway : Gateway (StateM σ)
  world : σ

namespace Step

def turn (step : Step σ) : Turn := (step.operation.perform step.gateway step.world).1.1

/-- The session at the end of the step. -/
def ended (step : Step σ) : Session (StateM σ) :=
  (step.operation.action (.start step.gateway) step.world).1.2

def next (step : Step σ) : Gateway (StateM σ) := step.operation.after step.gateway step.world

/-- A step that does not connect stays on the connection. -/
theorem stays (step : Step σ) (stays : step.operation.endpoint? = none) :
    Session.Stays (.start step.gateway) step.ended :=
  step.operation.action_stays stays (.start step.gateway) step.world

/-- An attempt to connect ends as connecting does. -/
theorem connecting (step : Step σ) {endpoint : Endpoint (StateM σ)}
    (connects : step.operation.endpoint? = some endpoint) :
    let reached := Gateway.connect endpoint (.start step.gateway) step.world
    step.turn.outcome = reached.1.1.map .walletInfo ∧ step.ended = reached.1.2 := by
  have acted := Operation.action_connects connects (.start step.gateway) step.world
  refine ⟨?_, ?_⟩
  · change (step.operation.action (.start step.gateway) step.world).1.1 = _
    rw [acted]
  · rw [ended, acted]

/-- An attempt to connect, whether it is the first or not. -/
theorem attempted (step : Step σ) {endpoint : Endpoint (StateM σ)}
    (connects : step.operation.endpoint? = some endpoint) :
    ∃ outcome : Except GatewayError WalletInfo,
      step.turn.outcome = outcome.map .walletInfo ∧
      Gateway.Attempted step.gateway
        (Gateway.learnNetwork endpoint (.start step.gateway) step.world).1.1
        outcome step.ended := by
  rcases step.connecting connects with ⟨outcome, ended⟩
  refine ⟨_, outcome, ?_⟩
  rw [ended]
  exact Gateway.connect_attempted endpoint step.gateway step.world

theorem config_eq (step : Step σ) : step.next.config = step.gateway.config := by
  cases connects : step.operation.endpoint? with
  | none => exact (step.stays connects).connection.config
  | some endpoint =>
      rcases step.attempted connects with ⟨outcome, _, attempt⟩
      exact attempt.config

end Step

/-- Whether there is a gateway to go on with: the latest step was not aborted. -/
def continues (history : List (Step σ)) : Bool := history.head?.all (!·.turn.aborted)

/-- The histories of a gateway, with the latest step first. Between two steps anything
may happen to the world. -/
inductive Run (config : Config) : List (Step σ) → Gateway (StateM σ) → Prop
  | new : Run config [] (.new config)
  | step {history : List (Step σ)} {gateway : Gateway (StateM σ)}
      (run : Run config history gateway) (goesOn : continues history = true)
      (operation : Operation (StateM σ)) (world : σ) :
      Run config (⟨operation, gateway, world⟩ :: history) (Step.mk operation gateway world).next

/-- The latest attempt to connect. -/
def latestAttempt? (history : List (Step σ)) : Option (Step σ) :=
  history.find? (·.operation.endpoint?.isSome)

namespace Run

variable {config : Config} {history : List (Step σ)} {gateway : Gateway (StateM σ)}

theorem config_eq (run : Run config history gateway) : gateway.config = config := by
  induction run with
  | new => rfl
  | step run goesOn operation world induction => exact (Step.config_eq _).trans induction

/-- Without an attempt to connect there is no connection. -/
theorem disconnected (run : Run config history gateway)
    (never : latestAttempt? history = none) : gateway.connection = none := by
  induction run with
  | new => rfl
  | @step history gateway run goesOn operation world induction =>
      cases connects : operation.endpoint? with
      | some endpoint => simp [latestAttempt?, connects] at never
      | none =>
          have earlier : latestAttempt? history = none := by
            simpa [latestAttempt?, connects] using never
          have same := (Step.stays ⟨operation, gateway, world⟩ connects).connection
          exact same.alone (induction earlier)

/-- The gateway is on the connection that the latest attempt left behind. -/
theorem latest (run : Run config history gateway) {attempt : Step σ}
    (latest : latestAttempt? history = some attempt) :
    attempt.gateway.config = config ∧ attempt.operation.endpoint?.isSome ∧
      attempt.next.SameConnection gateway := by
  induction run with
  | new => cases latest
  | @step history gateway run goesOn operation world induction =>
      cases connects : operation.endpoint? with
      | some endpoint =>
          have found : (⟨operation, gateway, world⟩ : Step σ) = attempt := by
            simpa [latestAttempt?, connects] using latest
          subst found
          exact ⟨run.config_eq, by rw [connects]; rfl, .refl _⟩
      | none =>
          have earlier : latestAttempt? history = some attempt := by
            simpa [latestAttempt?, connects] using latest
          rcases induction earlier with ⟨config, connecting, same⟩
          refine ⟨config, connecting, same.trans ?_⟩
          exact (Step.stays ⟨operation, gateway, world⟩ connects).connection

end Run

end LockGateway
