import LockGateway.Proofs.Gateway.Account
import LockGateway.Proofs.Gateway.WalletReport

/-! A listener that follows a gateway by its events alone. It keeps its own account of the
wallet, the network, the account and whether there is one to act for, and puts down what it
is told. Everything that the gateway puts down of these it tells too, in the same order and
also where an operation fails later on. What it does not tell is that an attempt to connect
dropped everything, unless that attempt comes as far as a connection. -/

namespace LockGateway

variable {m : Type → Type} {σ α β : Type}

/-! ## Listeners -/

/-- What a gateway says of itself, or what a listener takes it to be. -/
structure Picture where
  walletInfo : WalletInfo
  networkId : Option UInt64
  account : Option Address
  ready : Bool

def Gateway.picture (gateway : Gateway m) : Picture where
  walletInfo := gateway.walletInfo
  networkId := gateway.networkId
  account := gateway.account
  ready := gateway.ready

namespace Picture

/-- What a listener starts from. -/
def initial : Picture :=
  { walletInfo := .unavailable, networkId := none, account := none, ready := false }

/-- What a listener makes of an event. With a new wallet all else starts anew. -/
def heed (picture : Picture) : Event → Picture
  | .walletInfo info =>
      { walletInfo := info, networkId := none, account := none, ready := false }
  | .networkChanged network => { picture with networkId := some network }
  | .accountChanged account => { picture with account := some account }
  | .ready => { picture with ready := true }
  | .transactionPending _ | .transactionNew _ | .transactionUpdated _ _ | .lockUpdated _ _
  | .error _ => picture

/-- Events that say nothing of the gateway's own state are passed over. -/
theorem foldl_outward {events : List Event} (outward : ∀ event ∈ events, event.isOutward = true)
    (picture : Picture) : events.foldl heed picture = picture := by
  induction events with
  | nil => rfl
  | cons event rest induction =>
      rw [List.forall_mem_cons] at outward
      have passed : picture.heed event = picture := by
        cases event with
        | walletInfo | networkChanged | accountChanged | ready => cases outward.1
        | _ => rfl
      rw [List.foldl_cons, passed]
      exact induction outward.2

end Picture

/-! ## Actions -/

/-- From a session to a later one, whoever heeds what is told stays informed. -/
def Session.Informs (before after : Session m) : Prop :=
  ∃ told, after.events = before.events ++ told ∧
    after.gateway.picture = told.foldl Picture.heed before.gateway.picture

namespace Session.Informs

theorem refl (session : Session m) : Informs session session :=
  ⟨[], (List.append_nil _).symm, rfl⟩

theorem trans {first second third : Session m} (early : Informs first second)
    (late : Informs second third) : Informs first third := by
  rcases early with ⟨earlyTold, earlyEvents, earlyPicture⟩
  rcases late with ⟨lateTold, lateEvents, latePicture⟩
  refine ⟨earlyTold ++ lateTold, ?_, ?_⟩
  · rw [lateEvents, earlyEvents, List.append_assoc]
  · rw [latePicture, earlyPicture, List.foldl_append]

/-- Nothing of the picture has changed, and nothing of it is told. -/
theorem quiet {before after : Session m} {told : List Event}
    (same : after.gateway.picture = before.gateway.picture)
    (events : after.events = before.events ++ told)
    (outward : ∀ event ∈ told, event.isOutward = true) : Informs before after :=
  ⟨told, events, same.trans (Picture.foldl_outward outward before.gateway.picture).symm⟩

theorem silent {before after : Session m} (same : after.gateway.picture = before.gateway.picture)
    (events : after.events = before.events) : Informs before after :=
  ⟨[], events.trans (List.append_nil _).symm, same⟩

theorem inquire (query : Query α) :
    GatewayM.Keeps Informs (Gateway.inquire (m := StateM σ) query) := by
  intro session world
  cases found : session.gateway.wallet with
  | error error =>
      rw [Gateway.inquire_refused found]
      exact .refl session
  | ok connection =>
      rw [Gateway.inquire_connected found]
      exact silent rfl rfl

theorem ask (query : Query α) : GatewayM.Keeps Informs (Gateway.ask (m := StateM σ) query) :=
  .bind .trans (inquire query) fun _ => .of_same .refl fun _ _ => rfl

/-- What is put down of the network and the account is told of there. -/
theorem framed (scope : Scope) : Framed scope (Informs (m := StateM σ)) where
  refl := refl
  trans := trans
  told outward _ := quiet rfl rfl outward
  asked _ _ := inquire _
  joined _ := by
    apply GatewayM.Keeps.bind .trans (ask _)
    intro network session world
    rw [Gateway.current_bind]
    cases session.gateway.config.checkNetwork network with
    | error error =>
        have outward : ∀ event ∈ [Event.error error], event.isOutward = true := by
          simp [Event.isOutward]
        exact quiet rfl rfl outward
    | ok accepted => exact ⟨[.networkChanged network], rfl, rfl⟩
  loaded _ := by
    apply GatewayM.Keeps.bind .trans (ask _)
    intro found
    cases found with
    | none => exact .of_same .refl fun _ _ => rfl
    | some account =>
        intro session world
        exact ⟨[.accountChanged account, .ready], List.append_assoc _ _ _, rfl⟩
  resolved _ kind address session world := by
    rw [Gateway.resolve_eq]
    exact GatewayM.Keeps.bind .trans (ask _) (fun _ _ _ => silent rfl rfl) session world

/-- An attempt that comes as far as a connection tells of its wallet, and with that of all
that it dropped. -/
theorem connect {endpoint : Endpoint (StateM σ)} {gateway : Gateway (StateM σ)} {world : σ}
    (opens : (Connection.open endpoint gateway.config (gateway.generation + 1)
      gateway.undelivered world).1.1.toOption.isSome) :
    Informs (.start gateway) (Gateway.connect endpoint (.start gateway) world).1.2 := by
  rw [Gateway.connect_eq]
  revert opens
  rcases Connection.open endpoint gateway.config (gateway.generation + 1) gateway.undelivered
    world with ⟨⟨error | ⟨connection, info⟩, traffic⟩, later⟩
  · intro opens
    cases opens
  · intro _
    have opened : Informs (.start gateway)
        (Gateway.opened (.start gateway.disconnected) connection info traffic) :=
      ⟨[.walletInfo info], rfl, rfl⟩
    exact opened.trans ((framed .greeting).keeps (.greet info) _ later)

end Session.Informs

/-! ## Steps and runs -/

namespace Step

/-- The step is no attempt to connect that failed before it had a connection. -/
def Arrives (step : Step σ) : Prop := step.operation.endpoint?.isSome → step.opened?.isSome

theorem picture_eq (step : Step σ) (arrives : step.Arrives) :
    step.next.picture = step.turn.events.foldl Picture.heed step.gateway.picture := by
  have informs : Session.Informs (.start step.gateway) step.ended := by
    cases connects : step.operation.endpoint? with
    | none =>
        have informs := (Session.Informs.framed step.operation.scope).keeps
          (step.operation.action_composed connects)
        exact informs (.start step.gateway) step.world
    | some endpoint =>
        have opened := arrives (by rw [connects]; rfl)
        rw [opened?, connects, Option.bind_some, Option.isSome_map] at opened
        rw [(step.connecting connects).2]
        exact .connect opened
  rcases informs with ⟨told, events, picture⟩
  have all : step.turn.events = told := events
  rw [all]
  exact picture

end Step

namespace Run

variable {config : Config} {history : List (Step σ)} {gateway : Gateway (StateM σ)}

/-- The events of a history, in the order in which they were told. -/
def told (history : List (Step σ)) : List Event := history.reverse.flatMap (·.turn.events)

/-- Over every history whose attempts to connect all came as far as a connection, a listener
knows what the gateway says of itself. -/
theorem picture_followed (run : Run config history gateway)
    (arrives : ∀ step ∈ history, step.Arrives) :
    (told history).foldl Picture.heed .initial = gateway.picture := by
  induction run with
  | new => rfl
  | @step history gateway run goesOn operation world induction =>
      rw [List.forall_mem_cons] at arrives
      have earlier := induction arrives.2
      rw [told] at earlier ⊢
      rw [List.reverse_cons, List.flatMap_append, List.foldl_append, earlier,
        Step.picture_eq _ arrives.1, List.flatMap_singleton]

theorem loading_followed :
    Run { Config.standard with requiredChainId := some 1 } [Step.loading, Step.meeting]
        Step.loading.next ∧
      (∀ step ∈ [Step.loading, Step.meeting], step.Arrives) ∧
      (told [Step.loading, Step.meeting]).foldl Picture.heed .initial =
        Step.loading.next.picture := by
  have arrives : ∀ step ∈ [Step.loading, Step.meeting], step.Arrives := by
    simp only [List.forall_mem_cons]
    refine ⟨?_, fun _ => rfl, List.forall_mem_nil _⟩
    intro connecting
    cases connecting
  exact ⟨loading_run, arrives, picture_followed loading_run arrives⟩

end Run

end LockGateway
