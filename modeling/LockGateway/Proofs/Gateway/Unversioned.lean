import LockGateway.Proofs.Gateway.Composition

/-! Actions to which versions are of no concern: they do the same whatever is known of
contracts, and leave it as they found it. Only operations that need the version of a
contract are none of these, and they are again once they know it. -/

namespace LockGateway

variable {m : Type → Type} {σ α β : Type}

/-- The session with other versions known. -/
def Session.withVersions (session : Session m) (versions : VersionRegistry) : Session m :=
  { session with gateway := { session.gateway with versions } }

/-- The action neither heeds nor touches what is known of versions. -/
def GatewayM.IgnoresVersions (action : GatewayM (StateM σ) α) : Prop :=
  ∀ (session : Session (StateM σ)) (world : σ) (versions : VersionRegistry),
    action (session.withVersions versions) world =
      (((action session world).1.1, (action session world).1.2.withVersions versions),
        (action session world).2)

namespace GatewayM.IgnoresVersions

theorem versions_eq {action : GatewayM (StateM σ) α} (ignores : IgnoresVersions action)
    (session : Session (StateM σ)) (world : σ) :
    (action session world).1.2.gateway.versions = session.gateway.versions := by
  have same := ignores session world session.gateway.versions
  exact congrArg (·.1.2.gateway.versions) same

theorem bind {action : GatewayM (StateM σ) α} {next : α → GatewayM (StateM σ) β}
    (ignores : IgnoresVersions action) (nextIgnores : ∀ answer, IgnoresVersions (next answer)) :
    IgnoresVersions (action >>= next) := by
  intro session world versions
  rw [bind_eq, bind_eq, ignores session world versions]
  rcases action session world with ⟨⟨error | answer, after⟩, later⟩
  · rfl
  · exact nextIgnores answer after later versions

theorem pure (answer : α) : IgnoresVersions (σ := σ) (Pure.pure answer) :=
  fun _ _ _ => rfl

theorem require (outcome : Except GatewayError α) :
    IgnoresVersions (σ := σ) (Gateway.require outcome) :=
  fun _ _ _ => rfl

theorem inquire (query : Query α) : IgnoresVersions (σ := σ) (Gateway.inquire query) := by
  intro session world versions
  cases found : session.gateway.wallet with
  | error error =>
      have refused : (session.withVersions versions).gateway.wallet = .error error := found
      rw [Gateway.inquire_refused found, Gateway.inquire_refused refused]
  | ok connection =>
      have connected : (session.withVersions versions).gateway.wallet = .ok connection := found
      rw [Gateway.inquire_connected found, Gateway.inquire_connected connected]
      rfl

theorem ask (query : Query α) : IgnoresVersions (σ := σ) (Gateway.ask query) :=
  bind (inquire query) require

theorem getAccount : IgnoresVersions (σ := σ) Gateway.getAccount := by
  apply bind (ask _)
  intro found
  cases found with
  | none => exact pure none
  | some account => exact fun _ _ _ => rfl

theorem joinNetwork : IgnoresVersions (σ := σ) Gateway.joinNetwork := by
  apply bind (ask _)
  intro network session world versions
  rw [Gateway.current_bind, Gateway.current_bind]
  dsimp only [Session.withVersions]
  cases session.gateway.config.checkNetwork network with
  | error error => rfl
  | ok accepted => rfl

/-- An action that resolves no version ignores them. -/
theorem of_composed {scope : Scope} (unversioned : scope.versions = false)
    {action : GatewayM (StateM σ) α} (composed : action.Composed scope) :
    IgnoresVersions action := by
  induction composed with
  | require outcome => exact require outcome
  | bind early late earlyIgnores lateIgnores => exact earlyIgnores.bind lateIgnores
  | @attempt α action composed ignores =>
      intro session world versions
      have lifted (session : Session (StateM σ)) :
          (ExceptT.lift action.run : GatewayM (StateM σ) (Except GatewayError α)) session world =
            ((.ok (action session world).1.1, (action session world).1.2),
              (action session world).2) :=
        rfl
      rw [lifted, lifted, ignores session world versions]
  | @look α next same parts ignores =>
      intro session world versions
      have looks : session.gateway.LooksLike (session.withVersions versions).gateway :=
        ⟨rfl, rfl, rfl⟩
      rw [Gateway.current_bind, Gateway.current_bind, same looks]
      exact ignores session.gateway session world versions
  | tell outward => exact fun _ _ _ => rfl
  | inquire relayable within => exact inquire _
  | joinNetwork may => exact joinNetwork
  | getAccount may => exact getAccount
  | resolve may kind address =>
      rw [unversioned] at may
      cases may

theorem openConnection (endpoint : Endpoint (StateM σ)) :
    IgnoresVersions (Gateway.openConnection endpoint) := by
  intro session world versions
  rw [Gateway.openConnection_eq, Gateway.openConnection_eq]
  dsimp only [Session.withVersions]
  rcases Connection.open endpoint session.gateway.config session.gateway.generation
    session.gateway.undelivered world with ⟨⟨error | ⟨connection, info⟩, traffic⟩, later⟩
  · rfl
  · rfl

end GatewayM.IgnoresVersions

end LockGateway
