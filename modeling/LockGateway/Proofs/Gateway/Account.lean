import LockGateway.Proofs.Gateway.Consistency
import LockGateway.Proofs.Gateway.HandingIn

/-! Loading the account of a gateway. The answer is what the node lists first, and an
account that is listed takes the place of the one before. A list without a first account
is answered too, but it takes away nothing: an account that was loaded earlier stays, the
gateway stays ready, and orders are signed with it as before. -/

namespace LockGateway

variable {m : Type → Type} {σ : Type}

/-! ## What is asked -/

/-- The first account in a reply that lists accounts, if that is a text. -/
def Reply.firstAccount (reply : Reply) : Except GatewayError (Option Address) := do
  let accounts ← reply.result
  match (accounts.list?.bind List.head?).bind Json.string? with
  | none => return none
  | some text =>
      let account ← (Address.ofText text).mapError (.invalidResponse <| .malformedAccount text ·)
      return some account

theorem Query.firstAccount_eq :
    Query.firstAccount =
      .call "eth_accounts" (.list []) fun reply => .done reply.firstAccount := by
  refine congrArg (Query.call "eth_accounts" (.list [])) ?_
  funext reply
  change (done reply.result >>= fun accounts =>
    match (accounts.list?.bind List.head?).bind Json.string? with
    | none => pure none
    | some text => do
        let account ← ofExcept <|
          (Address.ofText text).mapError (.invalidResponse <| .malformedAccount text ·)
        return some account) = done reply.firstAccount
  rw [Reply.firstAccount]
  cases reply.result with
  | error error => rfl
  | ok accounts =>
      change (match (accounts.list?.bind List.head?).bind Json.string? with
        | none => pure none
        | some text => _ : Query (Option Address)) =
          done (match (accounts.list?.bind List.head?).bind Json.string? with
            | none => .ok none
            | some text => _)
      cases (accounts.list?.bind List.head?).bind Json.string? with
      | none => rfl
      | some text => exact done_bind _ _

/-! ## What is left behind -/

/-- Nothing that a gateway tells of itself has changed. Only its requests are counted on. -/
structure Gateway.Unchanged (before after : Gateway m) : Prop where
  connection : before.SameConnection after
  account : after.account = before.account
  ready : after.ready = before.ready
  versions : after.versions = before.versions

namespace Gateway

theorem Unchanged.refl (gateway : Gateway m) : gateway.Unchanged gateway :=
  ⟨.refl gateway, rfl, rfl, rfl⟩

theorem answered_unchanged {session : Session m} {connection : Connection m}
    (connected : session.gateway.wallet = .ok connection) (traffic : Traffic m) :
    session.gateway.Unchanged (session.answered connection traffic).gateway :=
  ⟨answered_same connected traffic, rfl, rfl, rfl⟩

/-- Whoever signed orders before still signs them. -/
theorem Unchanged.signer_eq {before after : Gateway m} (unchanged : before.Unchanged after)
    (order : Order) : order.signer after = order.signer before := by
  have loaded : (discard after.wallet >>= fun _ => after.sender) =
      (discard before.wallet >>= fun _ => before.sender) := by
    cases found : before.wallet with
    | error error =>
        rw [unchanged.connection.wallet_error found]
        rfl
    | ok connection =>
        rcases unchanged.connection.wallet_ok found with ⟨later, connected, _⟩
        rw [connected, sender, sender, unchanged.account]
        rfl
  cases order with
  | createLock | purchaseKey => exact loaded
  | withdraw | partialWithdraw | updateKeyPrice => rfl

theorem getAccount_refused {session : Session (StateM σ)} {error : GatewayError}
    (refused : session.gateway.wallet = .error error) (world : σ) :
    getAccount session world = ((.error error, session), world) :=
  GatewayM.bind_error (ask_refused refused world) _

theorem getAccount_connected {session : Session (StateM σ)} {connection : Connection (StateM σ)}
    (connected : session.gateway.wallet = .ok connection) (world : σ) :
    getAccount session world =
      let replied := connection.backend.caller.call "eth_accounts" (.list [])
        (.start connection.numbered session.gateway.undelivered) world
      let after := session.answered connection replied.1.2
      match replied.1.1.firstAccount with
      | .error error => ((.error error, after), replied.2)
      | .ok none => ((.ok none, after), replied.2)
      | .ok (some account) =>
          ((.ok (some account),
            { after with
              gateway := { after.gateway with account := some account, ready := true }
              events := after.events ++ [.accountChanged account] ++ [.ready] }), replied.2) := by
  let replied := connection.backend.caller.call "eth_accounts" (.list [])
    (.start connection.numbered session.gateway.undelivered) world
  have answered : connection.answer session.gateway.undelivered Query.firstAccount world =
      ((replied.1.1.firstAccount, replied.1.2), replied.2) := by
    rw [Query.firstAccount_eq]
    rfl
  rw [getAccount, GatewayM.bind_eq, ask_connected connected, answered]
  change _ = (match replied.1.1.firstAccount with
    | .error error => _
    | .ok none => _
    | .ok (some account) => _)
  rcases replied.1.1.firstAccount with error | found | account
  · rfl
  · rfl
  · rfl

/-- The first account that the node behind a gateway lists. -/
def listedAccount (gateway : Gateway (StateM σ)) (world : σ) :
    Except GatewayError (Option Address) :=
  (gateway.replyTo "eth_accounts" (.list []) world).firstAccount

/-- What loading the account comes to, by what is listed. -/
inductive Loads (before : Gateway m) :
    Except GatewayError (Option Address) → List Event → Gateway m → Prop
  | found {account : Address} {after : Gateway m} (unchanged : before.Unchanged after) :
      Loads before (.ok (some account)) [.accountChanged account, .ready]
        { after with account := some account, ready := true }
  | missing {after : Gateway m} (unchanged : before.Unchanged after) :
      Loads before (.ok none) [] after
  | failed {error : GatewayError} {after : Gateway m} (unchanged : before.Unchanged after) :
      Loads before (.error error) [] after

theorem getAccount_loads (gateway : Gateway (StateM σ)) (world : σ) :
    let loaded := getAccount (.start gateway) world
    loaded.1.1 = gateway.listedAccount world ∧
      gateway.Loads (gateway.listedAccount world) loaded.1.2.events loaded.1.2.gateway := by
  cases found : gateway.wallet with
  | error error =>
      have refused : (Session.start gateway).gateway.wallet = .error error := found
      rw [getAccount_refused refused, listedAccount, replyTo, found]
      exact ⟨rfl, .failed (.refl gateway)⟩
  | ok connection =>
      have connected : (Session.start gateway).gateway.wallet = .ok connection := found
      have unchanged := answered_unchanged connected
      rw [getAccount_connected connected, listedAccount, replyTo, found]
      dsimp only [Session.start]
      generalize connection.backend.caller.call "eth_accounts" (.list [])
        (.start connection.numbered gateway.undelivered) world = replied
      rcases replied.1.1.firstAccount with error | found | account
      · exact ⟨rfl, .failed (unchanged _)⟩
      · exact ⟨rfl, .missing (unchanged _)⟩
      · exact ⟨rfl, .found (unchanged _)⟩

/-- The gateway tells of exactly this account, and is ready to act if there is one. -/
def TellsAccount (gateway : Gateway m) (found : Option Address) : Prop :=
  gateway.account = found ∧ (gateway.ready = true ↔ found.isSome = true)

end Gateway

/-! ## Loading after any history -/

namespace Step

/-- Loads the account. -/
def load (gateway : Gateway (StateM σ)) (world : σ) : Step σ := ⟨.getAccount, gateway, world⟩

theorem load_loads (gateway : Gateway (StateM σ)) (world : σ) :
    (load gateway world).turn.outcome = (gateway.listedAccount world).map .account ∧
      gateway.Loads (gateway.listedAccount world) (load gateway world).turn.events
        (load gateway world).next := by
  have loads := Gateway.getAccount_loads gateway world
  have acted : (Operation.getAccount (m := StateM σ)).action (.start gateway) world = _ :=
    GatewayM.return_eq Gateway.getAccount Answer.account (.start gateway) world
  change ((Operation.getAccount (m := StateM σ)).action (.start gateway) world).1.1 = _ ∧
    gateway.Loads _
      ((Operation.getAccount (m := StateM σ)).action (.start gateway) world).1.2.events
      ((Operation.getAccount (m := StateM σ)).action (.start gateway) world).1.2.gateway
  rw [acted]
  exact ⟨congrArg (Except.map Answer.account) loads.1, loads.2⟩

/-- Lists no account any more. -/
def emptied : Step Json := load loading.next (.list [])

end Step

namespace Run

variable {config : Config} {history : List (Step σ)} {gateway : Gateway (StateM σ)}

/-- Loading answers with the account that is listed first, and afterwards the gateway tells
of just that one, unless none is listed while one was loaded before. An account that is
listed is all that changes, and everybody is told of it. If none is listed or the node
cannot be read, nothing changes, nobody is told, and orders are signed as they were before. -/
theorem account_told_iff (run : Run config history gateway) (world : σ) :
    let load := Step.load gateway world
    let listed := gateway.listedAccount world
    load.turn.outcome = listed.map .account ∧
      (∀ found, listed = .ok found →
        (load.next.TellsAccount found ↔ (found = none → gateway.account = none))) ∧
      (∀ account, listed = .ok (some account) →
        load.turn.events = [.accountChanged account, .ready] ∧
          gateway.Unchanged { load.next with account := gateway.account, ready := gateway.ready }) ∧
      ((∀ account, listed ≠ .ok (some account)) →
        load.turn.events = [] ∧ gateway.Unchanged load.next ∧
          ∀ order : Order, order.signer load.next = order.signer gateway) := by
  rcases Step.load_loads gateway world with ⟨outcome, loads⟩
  refine ⟨outcome, ?_⟩
  revert loads
  generalize gateway.listedAccount world = listed
  generalize (Step.load gateway world).turn.events = events
  generalize (Step.load gateway world).next = next
  intro loads
  cases loads with
  | found unchanged =>
      refine ⟨?_, ?_, fun unlisted => absurd rfl (unlisted _)⟩
      · rintro _ ⟨⟩
        simp [Gateway.TellsAccount]
      · rintro _ ⟨⟩
        exact ⟨rfl, ⟨{ unchanged.connection with }, rfl, rfl, unchanged.versions⟩⟩
  | missing unchanged =>
      refine ⟨?_, ?_, fun _ => ⟨rfl, unchanged, unchanged.signer_eq⟩⟩
      · rintro _ ⟨⟩
        have consistent := run.consistent.ready_iff
        rw [Gateway.TellsAccount, unchanged.account, unchanged.ready, consistent]
        cases gateway.account <;> simp
      · rintro _ ⟨⟩
  | failed unchanged =>
      refine ⟨?_, ?_, fun _ => ⟨rfl, unchanged, unchanged.signer_eq⟩⟩
      · rintro _ ⟨⟩
      · rintro _ ⟨⟩

theorem account_told_after_emptying :
    Run { Config.standard with requiredChainId := some 1 } [Step.loading, Step.meeting]
        Step.loading.next ∧
      Step.loading.next.account = some .zero ∧
      Step.loading.next.listedAccount (.list []) = .ok none ∧
      Step.emptied.turn.outcome = (Step.loading.next.listedAccount (.list [])).map .account ∧
      (∀ found, Step.loading.next.listedAccount (.list []) = .ok found →
        (Step.emptied.next.TellsAccount found ↔
          (found = none → Step.loading.next.account = none))) ∧
      (∀ account, Step.loading.next.listedAccount (.list []) = .ok (some account) →
        Step.emptied.turn.events = [.accountChanged account, .ready] ∧
          Step.loading.next.Unchanged { Step.emptied.next with
            account := Step.loading.next.account
            ready := Step.loading.next.ready }) ∧
      ((∀ account, Step.loading.next.listedAccount (.list []) ≠ .ok (some account)) →
        Step.emptied.turn.events = [] ∧ Step.loading.next.Unchanged Step.emptied.next ∧
          ∀ order : Order, order.signer Step.emptied.next = order.signer Step.loading.next) :=
  ⟨loading_run, rfl, rfl, account_told_iff loading_run (.list [])⟩

/-- The node lists no account any more, and the gateway is ready to act for the one that it
listed before. -/
theorem emptied_account_stays :
    ¬ ∀ (config : Config) (history : List (Step Json)) (gateway : Gateway (StateM Json))
      (world : Json) (found : Option Address), Run config history gateway →
      (Step.load gateway world).turn.outcome = .ok (.account found) →
      (Step.load gateway world).next.TellsAccount found := by
  intro authoritative
  have told := authoritative _ _ _ (.list []) none loading_run rfl
  have stayed : Step.emptied.next.account = some .zero := rfl
  cases stayed.symm.trans told.1

end Run

end LockGateway
