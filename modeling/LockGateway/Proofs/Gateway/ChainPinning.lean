import LockGateway.Proofs.Gateway.History

/-! A required network as a barrier for transactions. The barrier stands as long as
the latest attempt to connect succeeded. An attempt that failed because of the
network leaves a connection behind that is still of use, and transactions go out
over it. -/

namespace LockGateway

variable {σ : Type}

/-- The turn hands in a transaction. -/
def Turn.HandsIn (turn : Turn) : Prop :=
  ∃ issued ∈ turn.issued, issued.request.method = "eth_sendTransaction"

namespace Step

def Succeeded (step : Step σ) : Prop :=
  ∃ answer, step.turn.outcome = .ok answer

/-- What the node says when an attempt to connect asks for the network. -/
def networkSaid (attempt : Step σ) : Except GatewayError UInt64 :=
  match attempt.operation.endpoint? with
  | some endpoint =>
      (Gateway.learnNetwork endpoint (.start attempt.gateway) attempt.world).1.1
  | none => .error .notConnected

/-- Nothing is handed in on the way to a connection. -/
theorem connects_of_handsIn (step : Step σ) (handsIn : step.turn.HandsIn) :
    step.operation.endpoint? = none := by
  cases connects : step.operation.endpoint? with
  | none => rfl
  | some endpoint =>
      rcases step.attempted connects with ⟨outcome, _, attempt⟩
      rcases attempt.issues with ⟨sent, equal, fits⟩
      rcases handsIn with ⟨issued, member, method⟩
      have sentMember : issued ∈ sent := by
        have issuedMember : issued ∈ step.ended.issued := member
        rw [equal] at issuedMember
        simpa [Session.start] using issuedMember
      rcases fits issued sentMember with other | other
      · rw [method] at other
        exact absurd other (by decide)
      · rw [method] at other
        exact absurd other (by decide)

/-- Nothing is handed in without a wallet behind the connection. -/
theorem wallet_of_handsIn (step : Step σ) (handsIn : step.turn.HandsIn) :
    ∃ connection, step.gateway.wallet = .ok connection := by
  have stays := step.stays (step.connects_of_handsIn handsIn)
  cases found : step.gateway.wallet with
  | ok connection => exact ⟨connection, rfl⟩
  | error error =>
      have unused := stays.unused error found
      rcases handsIn with ⟨issued, member, _⟩
      have issuedMember : issued ∈ step.ended.issued := member
      rw [unused] at issuedMember
      cases issuedMember

end Step

/-! ## A lock on the wrong network

A node that knows a lock is asked to join, and then to withdraw from that lock. -/

namespace Step

/-- A wallet on a network. It has a lock of the first version and accepts transactions. -/
def lockOwner (network : String) : Wallet (StateM Unit) :=
  .plain fun request => pure (.ok (.success request.id (
    if request.method = "net_version" then .string network
    else if request.method = "eth_getCode" then .string "0x6080"
    else if request.method = "eth_sendTransaction" then .string
      "0x2a2a2a2a2a2a2a2a2a2a2a2a2a2a2a2a2a2a2a2a2a2a2a2a2a2a2a2a2a2a2a2a"
    else .null)))

def joining (network : String) (required : UInt64) : Step Unit where
  operation := .connect (.direct (lockOwner network))
  gateway := .new { Config.standard with requiredChainId := some required }
  world := ()

def withdrawing (network : String) (required : UInt64) : Step Unit where
  operation := .withdrawFromLock
    { lock := .zero, account := .zero, amount := none, currency := none, decimals := 18 }
  gateway := (joining network required).next
  world := ()

theorem withdrawing_handsIn : (withdrawing "1984" 1984).turn.HandsIn ∧
    (withdrawing "1984" 1).turn.HandsIn := by
  have handsIn (turn : Turn) (methods : turn.issued.map (·.request.method) =
      ["eth_getCode", "eth_call", "eth_sendTransaction"]) : turn.HandsIn := by
    have sent : "eth_sendTransaction" ∈ turn.issued.map (·.request.method) := by
      rw [methods]
      decide
    rcases List.mem_map.mp sent with ⟨issued, member, method⟩
    exact ⟨issued, member, method⟩
  exact ⟨handsIn _ rfl, handsIn _ rfl⟩

end Step

namespace Run

variable {config : Config} {history : List (Step σ)} {gateway : Gateway (StateM σ)}
  {required : UInt64}

theorem checkNetwork_eq_ok (pinned : config.requiredChainId = some required) (network : UInt64) :
    config.checkNetwork network = .ok () ↔ network = required := by
  rw [Config.checkNetwork_ok_iff, pinned]
  simp [eq_comm]

/-- The connection that an attempt left behind for transactions, by the outcome of
the attempt. -/
theorem attempt_network (pinned : config.requiredChainId = some required)
    {attempt : Step σ} (config_eq : attempt.gateway.config = config)
    (connecting : attempt.operation.endpoint?.isSome)
    (usable : attempt.next.walletInfo.noWallet = false) :
    (attempt.Succeeded ∧ attempt.networkSaid = .ok required ∧
        attempt.next.networkId = some required) ∨
      (¬ attempt.Succeeded ∧ attempt.networkSaid ≠ .ok required ∧
        attempt.next.networkId = none) := by
  rcases Option.isSome_iff_exists.mp connecting with ⟨endpoint, connects⟩
  rcases attempt.attempted connects with ⟨outcome, outcomeEq, attempted⟩
  have said : attempt.networkSaid =
      (Gateway.learnNetwork endpoint (.start attempt.gateway) attempt.world).1.1 := by
    rw [Step.networkSaid, connects]
  rw [← said] at attempted
  cases outcome with
  | error error =>
      right
      rcases attempted.failed error rfl with ⟨unknown, wrong⟩
      refine ⟨?_, ?_, unknown⟩
      · rintro ⟨answer, succeeds⟩
        rw [outcomeEq] at succeeds
        cases succeeds
      · intro answered
        rw [config_eq] at wrong
        exact wrong required answered ((checkNetwork_eq_ok pinned required).mpr rfl)
  | ok info =>
      left
      rcases attempted.succeeded info rfl with ⟨walletInfo, learned⟩
      have infoUsable : info.noWallet = false := by
        rw [← walletInfo]
        exact usable
      rcases learned infoUsable with ⟨network, answered, known, accepted⟩
      rw [config_eq] at accepted
      have equal := (checkNetwork_eq_ok pinned network).mp accepted
      subst equal
      exact ⟨⟨.walletInfo info, outcomeEq⟩, answered, known⟩

/-- Over any history, a transaction that is handed in goes to the required network
exactly if the latest attempt to connect succeeded, which it did exactly if the node
said that it is on that network. Otherwise the gateway knows no network at all. -/
theorem transaction_network_iff (pinned : config.requiredChainId = some required)
    (run : Run config history gateway) (operation : Operation (StateM σ)) (world : σ)
    (handsIn : (operation.perform gateway world).1.1.HandsIn) :
    ∃ attempt, latestAttempt? history = some attempt ∧
      (operation.after gateway world).networkId = gateway.networkId ∧
      (gateway.networkId = some required ↔ attempt.Succeeded) ∧
      (attempt.Succeeded ↔ attempt.networkSaid = .ok required) ∧
      (¬ attempt.Succeeded → gateway.networkId = none) := by
  let step : Step σ := ⟨operation, gateway, world⟩
  have stays := step.stays (step.connects_of_handsIn handsIn)
  rcases step.wallet_of_handsIn handsIn with ⟨connection, connected⟩
  cases latest : latestAttempt? history with
  | none =>
      have found := Gateway.connection_of_wallet connected
      rw [show step.gateway = gateway from rfl, run.disconnected latest] at found
      cases found
  | some attempt =>
      rcases run.latest latest with ⟨config_eq, connecting, same⟩
      have usable : attempt.next.walletInfo.noWallet = false := by
        rw [← same.walletInfo]
        exact Gateway.usable_of_wallet connected
      refine ⟨attempt, rfl, stays.connection.networkId, ?_⟩
      rw [same.networkId]
      rcases attempt_network pinned config_eq connecting usable with
        ⟨succeeded, said, known⟩ | ⟨failed, said, unknown⟩
      · simp [succeeded, said, known]
      · simp [failed, said, unknown]

theorem transaction_on_required_network :
    (Step.withdrawing "1984" 1984).turn.HandsIn ∧
      ∃ attempt, latestAttempt? [Step.joining "1984" 1984] = some attempt ∧
        (Step.withdrawing "1984" 1984).next.networkId = (Step.joining "1984" 1984).next.networkId ∧
        ((Step.joining "1984" 1984).next.networkId = some 1984 ↔ attempt.Succeeded) ∧
        (attempt.Succeeded ↔ attempt.networkSaid = .ok 1984) ∧
        (¬ attempt.Succeeded → (Step.joining "1984" 1984).next.networkId = none) :=
  ⟨Step.withdrawing_handsIn.1,
    transaction_network_iff rfl (.step .new rfl _ ()) (Step.withdrawing "1984" 1984).operation ()
      Step.withdrawing_handsIn.1⟩

/-- A node on network 1984 is refused by a gateway that requires network 1, and
withdraws from the lock all the same. -/
theorem transaction_off_required_network :
    ¬ ∀ (config : Config) (required : UInt64) (history : List (Step Unit))
      (gateway : Gateway (StateM Unit)) (operation : Operation (StateM Unit)),
      config.requiredChainId = some required → Run config history gateway →
      (operation.perform gateway ()).1.1.HandsIn →
      (operation.after gateway ()).networkId = some required := by
  intro pinning
  have pinned := pinning _ 1 [Step.joining "1984" 1] _ (Step.withdrawing "1984" 1).operation rfl
    (.step .new rfl (Step.joining "1984" 1).operation ()) Step.withdrawing_handsIn.2
  have unknown : (Step.withdrawing "1984" 1).next.networkId = none := rfl
  have known : (Step.withdrawing "1984" 1).next.networkId = some 1 := pinned
  rw [unknown] at known
  cases known

end Run

end LockGateway
