import LockGateway.Gateway.Connecting
import LockGateway.Proofs.Address
import LockGateway.Proofs.Connection.Fronting
import LockGateway.Proofs.Quantity
import LockGateway.Proofs.Relay.Gatekeeping

/-! Hosts that answer by themselves, as the gateway finds them. What such a host says of its
wallet, its account and its network is read back as it was. To every other call a hosted
account replies with an error, and without an account so does the host to all of them. -/

namespace LockGateway

variable {σ α : Type}

theorem WalletInfo.ofJson_toJson (info : WalletInfo) : ofJson info.toJson = .ok info := by
  rcases info with ⟨noWallet, notEnabled, isMetamask⟩
  cases noWallet <;> cases notEnabled <;> cases isMetamask <;> rfl

namespace RelayHost

/-! ## Calls -/

/-- What a host answers by itself comes back as it is, and leaves the world alone. -/
theorem call_answered {host : RelayHost (StateM σ)} {method : String} (named : method ≠ "")
    (params : List Json) (capacity : Nat) (schedule : Schedule) (traffic : Traffic (StateM σ))
    (world : σ) {reply : UInt64 → RelayReply}
    (answers : ∀ id, host.reply { method, params, id } = pure (reply id))
    (own : ∀ id, (reply id).id = id) :
    let backend := Backend.relay host.answer capacity schedule
    let request := traffic.nextRequest method (.list params)
    backend.caller.call method (.list params) traffic world =
      ((.ok (reply request.id).response, backend.carrier.called traffic request),
        backend.carrier.arrival traffic world) := by
  have delivered (id : UInt64) (later : σ) :
      host.answer.deliver (.make id method (.list params)) later =
        (.ok (reply id).response, later) := by
    have answered : host.reply { method, params, id } later = (reply id, later) := by
      rw [answers]
      rfl
    have correlated : (host.reply { method, params, id } later).1.id = id := by
      rw [answered]
      exact own id
    rw [host.answer_deliver id named params later correlated, answered]
  intro backend request
  rw [backend.call_eq params named]
  change ((_, _), _) = _
  have made := delivered request.id (backend.carrier.arrival traffic world)
  exact congrArg (fun replied : Reply × σ =>
    ((replied.1, backend.carrier.called traffic request), replied.2)) made

end RelayHost

/-! ## Opening -/

/-- What a host tells of its wallet is taken from its reply. -/
theorem Query.walletInfo_told (info : WalletInfo) : ∃ resume : Reply → Query WalletInfo,
    Query.walletInfo = .call walletInfoMethod (.list []) resume ∧
      ∀ id, resume (.ok (RelayReply.success id info.toJson).response) = .done (.ok info) := by
  refine ⟨_, rfl, ?_⟩
  intro id
  change (ofExcept ((WalletInfo.ofJson info.toJson).mapError _) : Query WalletInfo) = _
  rw [WalletInfo.ofJson_toJson]
  rfl

/-- The first request of a relay. -/
def walletInfoRequest : Rpc.Request := .make 1 walletInfoMethod (.list [])

theorem Connection.open_host (host : RelayHost (StateM σ)) (capacity : Nat) (schedule : Schedule)
    (config : Config) (generation : UInt64) (undelivered : List (Delivery (StateM σ)))
    (world : σ) :
    let backend := Backend.relay host.answer capacity schedule
    Connection.open (.relay host.answer capacity schedule) config generation undelivered world =
      ((.ok ({ backend, flavor := host.walletInfo.flavor, generation, numbered := 1 },
          host.walletInfo),
        backend.carrier.called (.start 0 undelivered) walletInfoRequest),
          backend.carrier.arrival (.start 0 undelivered) world) := by
  intro backend
  rcases Query.walletInfo_told host.walletInfo with ⟨resume, asks, reads⟩
  have told : Query.walletInfo.runWith backend.caller (.start 0 undelivered) world =
      ((.ok host.walletInfo, backend.carrier.called (.start 0 undelivered) walletInfoRequest),
        backend.carrier.arrival (.start 0 undelivered) world) := by
    have named : walletInfoMethod ≠ "" := by decide
    have answered := host.call_answered named [] capacity schedule (.start 0 undelivered) world
      (fun _ => host.reply_walletInfo rfl) (fun _ => rfl)
    rw [asks, Query.runWith_call]
    dsimp only at answered ⊢
    rw [answered]
    dsimp only
    rw [reads]
    rfl
  change (let ended := Query.walletInfo.runWith backend.caller (.start 0 undelivered) world
    ((ended.1.1.map fun info =>
      (Connection.mk backend info.flavor generation ended.1.2.numbered, info), ended.1.2),
        ended.2)) = _
  rw [told]
  rfl

/-! ## What is replied -/

/-- A reply that holds an error, and so has no result. -/
def Reply.Refuses (reply : Reply) : Prop :=
  ∃ response error, reply = .ok response ∧ response.errorObject? = some error

theorem Reply.Refuses.result_eq {reply : Reply} (refuses : reply.Refuses) :
    ∃ error, reply.result = .error error := by
  rcases refuses with ⟨response, error, rfl, named⟩
  refine ⟨.transport (.rpc error), ?_⟩
  change response.outcome.mapError _ = _
  rw [Rpc.Response.outcome, named]
  rfl

namespace RelayHost

/-- A hosted account knows the methods of its account and of its network. -/
structure Unsupported (method : String) : Prop where
  named : method ≠ ""
  info : method ≠ walletInfoMethod
  accounts : method ≠ "eth_accounts"
  network : method ≠ "net_version"

variable {account : Address} {network : UInt64}

theorem accountReply_unsupported {request : RelayRequest}
    (unsupported : Unsupported request.method) :
    accountReply account network request =
      .failure request.id ("\"" ++ request.method ++ "\" is not supported") := by
  rw [accountReply, if_neg unsupported.accounts, if_neg unsupported.network]

/-- A call that a hosted account does not know is refused. -/
theorem call_unsupported {method : String} (unsupported : Unsupported method)
    (params : List Json) (capacity : Nat) (schedule : Schedule) (traffic : Traffic (StateM σ))
    (world : σ) :
    ((Backend.relay (userAccount (some account) network).answer capacity schedule).caller.call
      method
      (.list params) traffic world).1.1.Refuses := by
  have answered := call_answered unsupported.named params capacity schedule traffic world
    (fun id => (reply_account account network unsupported.info).trans
      (congrArg pure (accountReply_unsupported unsupported))) (fun id => rfl)
  dsimp only at answered
  rw [answered]
  exact ⟨_, _, rfl, rfl⟩

/-- The account is listed alone, in its checksummed text. -/
theorem call_accounts (capacity : Nat) (schedule : Schedule) (traffic : Traffic (StateM σ))
    (world : σ) :
    ((Backend.relay (userAccount (some account) network).answer capacity schedule).caller.call
      "eth_accounts" (.list []) traffic world).1.1.result =
        .ok (.list [.string account.checksumText]) := by
  have named : "eth_accounts" ≠ "" := by decide
  have other : "eth_accounts" ≠ walletInfoMethod := by decide
  have answered := call_answered named [] capacity schedule traffic world
    (fun id => reply_account account network other) (fun id => accountReply_id account network _)
  dsimp only at answered
  rw [answered]
  rfl

end RelayHost

/-- The number of the network is written in decimal digits and read back. -/
theorem Connection.network_hosted {connection : Connection (StateM σ)} {account : Address}
    {network : UInt64} {capacity : Nat} {schedule : Schedule}
    (hosted : connection.backend =
      .relay (RelayHost.userAccount (some account) network).answer capacity schedule)
    (undelivered : List (Delivery (StateM σ))) (world : σ) :
    (connection.answer undelivered .network world).1.1 = .ok network := by
  have named : "net_version" ≠ "" := by decide
  have other : "net_version" ≠ walletInfoMethod := by decide
  have answered := RelayHost.call_answered named [] capacity schedule
    (.start connection.numbered undelivered) world
    (fun id => RelayHost.reply_account account network other)
    (fun id => RelayHost.accountReply_id account network _)
  dsimp only at answered
  change (Query.network.runWith connection.backend.caller
    (.start connection.numbered undelivered) world).1.1 = _
  rw [hosted, Query.network, Query.ask, Query.runWith_call]
  dsimp only [Question.fitting, Question.quantity]
  rw [answered]
  change (Quantity.ofText (Numeral.text 10 network.toNat) >>= fun word =>
    Quantity.toUInt64 word "net_version") = _
  rw [Quantity.ofText_decimal]
  exact Quantity.toUInt64_wordOfUInt64 network "net_version"

end LockGateway
