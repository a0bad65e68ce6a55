import LockGateway.Gateway.Operation

/-! How actions on a gateway end, step by step, and what every one of their steps
keeps to. -/

namespace LockGateway

variable {σ α β : Type}

/-! ## Steps -/

/-- What the world does is always gone on from. -/
theorem world_bind (step : StateM σ α) (next : α → StateM σ β) (world : σ) :
    (step >>= next) world = next (step world).1 (step world).2 :=
  rfl

namespace GatewayM

/-- An action goes on with an answer, and ends with a failure. -/
theorem bind_eq (action : GatewayM (StateM σ) α) (next : α → GatewayM (StateM σ) β)
    (session : Session (StateM σ)) (world : σ) :
    (action >>= next) session world =
      match action session world with
      | ((.ok answer, after), later) => next answer after later
      | ((.error error, after), later) => ((.error error, after), later) := by
  change (ExceptT.bindCont next (action session world).1.1) (action session world).1.2
    (action session world).2 = _
  rcases action session world with ⟨⟨error | answer, after⟩, later⟩
  · rfl
  · rfl

theorem bind_ok {action : GatewayM (StateM σ) α} {session after : Session (StateM σ)}
    {world later : σ} {answer : α} (ends : action session world = ((.ok answer, after), later))
    (next : α → GatewayM (StateM σ) β) :
    (action >>= next) session world = next answer after later := by
  rw [bind_eq, ends]

theorem bind_error {action : GatewayM (StateM σ) α} {session after : Session (StateM σ)}
    {world later : σ} {error : GatewayError}
    (ends : action session world = ((.error error, after), later))
    (next : α → GatewayM (StateM σ) β) :
    (action >>= next) session world = ((.error error, after), later) := by
  rw [bind_eq, ends]

/-- An action whose answer is only put into another form. -/
theorem return_eq (action : GatewayM (StateM σ) α) (form : α → β) (session : Session (StateM σ))
    (world : σ) :
    (do return form (← action) : GatewayM (StateM σ) β) session world =
      (((action session world).1.1.map form, (action session world).1.2),
        (action session world).2) := by
  rw [bind_eq]
  rcases action session world with ⟨⟨error | answer, after⟩, later⟩
  · rfl
  · rfl

end GatewayM

namespace Gateway

theorem require_eq (outcome : Except GatewayError α) (session : Session (StateM σ)) (world : σ) :
    require outcome session world = ((outcome, session), world) :=
  rfl

theorem current_bind (next : Gateway (StateM σ) → GatewayM (StateM σ) α)
    (session : Session (StateM σ)) (world : σ) :
    (current >>= next) session world = next session.gateway session world :=
  rfl

end Gateway

/-- A step that cannot fail is always gone on from. -/
theorem Session.step_bind (step : StateT (Session (StateM σ)) (StateM σ) α)
    (next : α → StateT (Session (StateM σ)) (StateM σ) β) (session : Session (StateM σ))
    (world : σ) :
    (step >>= next) session world =
      next (step session world).1.1 (step session world).1.2 (step session world).2 :=
  rfl

theorem Gateway.refreshTransaction_eq (transaction : Transaction) (session : Session (StateM σ))
    (world : σ) :
    refreshTransaction transaction session world =
      match ask (.observe transaction.hash) session world with
      | ((.error error, after), later) => (((.error error, transaction), after), later)
      | ((.ok observation, after), later) =>
          let progress := transaction.observe observation
          (((progress.changed, progress.transaction),
            { after with events := after.events ++ progress.events }), later) := by
  rw [refreshTransaction, Session.step_bind, ExceptT.run]
  rcases ask (.observe transaction.hash) session world with ⟨⟨error | observation, after⟩, later⟩
  · rfl
  · rfl

/-! ## Operations -/

/-- The gateway as an operation leaves it. If it was aborted, nothing is done on it any
more. -/
def Operation.after (operation : Operation (StateM σ)) (gateway : Gateway (StateM σ)) (world : σ) :
    Gateway (StateM σ) :=
  (operation.action (.start gateway) world).1.2.gateway

/-- An operation leaves its gateway behind, unless it is aborted. -/
theorem Operation.perform_eq (operation : Operation (StateM σ)) (gateway : Gateway (StateM σ))
    (world : σ) :
    (operation.perform gateway world).1.2 =
      if (operation.perform gateway world).1.1.aborted then none
      else some (operation.after gateway world) :=
  rfl

/-- After an operation the others follow on the gateway that it leaves behind. One that is
aborted is the last. -/
theorem Operation.performAll_cons (operation : Operation (StateM σ))
    (rest : List (Operation (StateM σ))) (gateway : Gateway (StateM σ)) (world : σ) :
    performAll (operation :: rest) gateway world =
      let performed := operation.perform gateway world
      if performed.1.1.aborted then (([performed.1.1], none), performed.2)
      else
        let ended := performAll rest (operation.after gateway world) performed.2
        ((performed.1.1 :: ended.1.1, ended.1.2), ended.2) := by
  rw [performAll, world_bind]
  have left := operation.perform_eq gateway world
  revert left
  rcases operation.perform gateway world with ⟨⟨turn, next⟩, later⟩
  intro left
  dsimp only at left ⊢
  rw [left]
  split
  · rfl
  · rfl

/-! ## What is kept -/

/-- Whatever the world does, the action leads from a session to a related one. -/
def GatewayM.Keeps (relation : Session (StateM σ) → Session (StateM σ) → Prop)
    (action : GatewayM (StateM σ) α) : Prop :=
  ∀ session world, relation session (action session world).1.2

namespace GatewayM.Keeps

variable {relation : Session (StateM σ) → Session (StateM σ) → Prop}

theorem bind {action : GatewayM (StateM σ) α} {next : α → GatewayM (StateM σ) β}
    (trans : ∀ {first second third}, relation first second → relation second third →
      relation first third)
    (keeps : Keeps relation action) (nextKeeps : ∀ answer, Keeps relation (next answer)) :
    Keeps relation (action >>= next) := by
  intro session world
  have early := keeps session world
  rw [bind_eq]
  revert early
  rcases action session world with ⟨⟨error | answer, after⟩, later⟩
  · intro early
    exact early
  · intro early
    exact trans early (nextKeeps answer after later)

/-- A step that leaves the session as it is keeps to anything reflexive. -/
theorem of_same {action : GatewayM (StateM σ) α} (refl : ∀ session, relation session session)
    (same : ∀ session world, (action session world).1.2 = session) : Keeps relation action := by
  intro session world
  rw [same]
  exact refl session

end GatewayM.Keeps

end LockGateway
