import LockGateway.Proofs.Relay.Native

/-! What a relay's host lets through. Payloads come from anywhere. The host drops those that
are malformed, and answers each of the others once. Only a wallet in the page of the host is
asked, once for each payload that is not about the host itself. A host without a wallet
refuses, and what a wallet answers is passed on with the error that it has, if any. -/

namespace LockGateway

variable {σ : Type}

/-! ## Calls that reach the wallet -/

/-- A call that reached a wallet, and what it replied. -/
structure WalletCall where
  method : String
  params : Json
  reply : Reply

def WalletCall.asked (call : WalletCall) : String × Json := (call.method, call.params)

/-- The wallet, with its calls written down beside the world. -/
def Sender.logged (wallet : Sender (StateM σ)) : Sender (StateM (σ × List WalletCall)) :=
  fun method params (world, calls) =>
    let replied := wallet method params world
    (replied.1, (replied.2, calls ++ [{ method, params, reply := replied.1 }]))

namespace RelayHost

/-- The host, with the calls of its wallet written down. -/
def logged : RelayHost (StateM σ) → RelayHost (StateM (σ × List WalletCall))
  | native wallet flavor => native (Sender.logged wallet) flavor
  | userAccount account network => userAccount account network

def isNative : RelayHost (StateM σ) → Bool
  | native _ _ => true
  | userAccount _ _ => false

/-- The log is only about the calls. -/
theorem logged_walletInfo (host : RelayHost (StateM σ)) :
    host.logged.walletInfo = host.walletInfo := by
  cases host with
  | native wallet flavor => rfl
  | userAccount account network =>
      cases account with
      | none => rfl
      | some account => rfl

/-! ## Replies of each kind of host -/

variable {request : RelayRequest}

theorem reply_walletInfo (host : RelayHost (StateM σ)) (info : request.method = walletInfoMethod) :
    host.reply request = pure (.success request.id host.walletInfo.toJson) := by
  unfold reply
  rw [if_pos info]

theorem reply_native (wallet : Sender (StateM σ)) (flavor : WalletFlavor)
    (other : request.method ≠ walletInfoMethod) (world : σ) :
    (native wallet flavor).reply request world =
      let replied := wallet request.method (.list request.params) world
      (nativeReply request.id replied.1, replied.2) := by
  unfold reply
  rw [if_neg other]
  rfl

theorem reply_account (account : Address) (network : UInt64)
    (other : request.method ≠ walletInfoMethod) :
    (userAccount (some account) network).reply request =
      (pure (accountReply account network request) : StateM σ RelayReply) := by
  unfold reply
  rw [if_neg other]

theorem reply_deserted (network : UInt64) (other : request.method ≠ walletInfoMethod) :
    (userAccount none network).reply request =
      (pure (.failure request.id noWallet) : StateM σ RelayReply) := by
  unfold reply
  rw [if_neg other]

theorem accountReply_id (account : Address) (network : UInt64) (request : RelayRequest) :
    (accountReply account network request).id = request.id := by
  rw [accountReply]
  split
  · rfl
  · split
    · rfl
    · rfl

/-! ## One payload -/

/-- What a wallet answered stands in the reply of the host. An error is one that is there and
is not null. -/
structure PassesOn (answered : Rpc.Response) (reply : RelayReply) : Prop where
  result : reply.result = answered.result
  unfaulted (harmless : answered.error = none ∨ answered.error = some .null) : reply.error = none
  faulted {error : Json} (named : answered.error = some error) (real : error ≠ .null) :
    reply.error = some (Rpc.ErrorObject.ofValue error).toJson ∧
      (Rpc.ErrorObject.ofValue error).toJson ≠ .null

theorem nativeReply_passesOn (id : UInt64) (answered : Rpc.Response) :
    PassesOn answered (nativeReply id (.ok answered)) where
  result := rfl
  unfaulted := by
    intro harmless
    rcases harmless with absent | null
    · simp [nativeReply, Rpc.Response.errorObject?, absent]
    · simp [nativeReply, Rpc.Response.errorObject?, null]
  faulted := by
    intro error named real
    refine ⟨?_, fun null => by cases null⟩
    rw [nativeReply, Rpc.Response.errorObject?, named]
    cases error with
    | null => exact absurd rfl real
    | _ => rfl

/-- What became of a payload: the reply to it and the calls of the wallet meanwhile. -/
structure Handling where
  payload : Json
  reply : Option RelayReply
  calls : List WalletCall

/-- A payload is dropped if it is malformed, and else answered once and with its own id. Only
a wallet in the page is called, once, and only for what is not about the host. -/
structure Gatekept (host : RelayHost (StateM σ)) (handling : Handling) : Prop where
  dropped (malformed : RelayRequest.ofPayload? handling.payload = none) :
    handling.reply = none ∧ handling.calls = []
  answered {request : RelayRequest}
    (accepted : RelayRequest.ofPayload? handling.payload = some request) :
    ∃ reply, handling.reply = some reply ∧ reply.id = request.id
  asked {request : RelayRequest}
    (accepted : RelayRequest.ofPayload? handling.payload = some request) :
    handling.calls.map WalletCall.asked =
      if host.isNative ∧ request.method ≠ walletInfoMethod then
        [(request.method, .list request.params)]
      else []
  walletless {request : RelayRequest}
    (accepted : RelayRequest.ofPayload? handling.payload = some request)
    (deserted : host.hasWallet = false) (other : request.method ≠ walletInfoMethod) :
    handling.reply = some (.failure request.id noWallet)
  faithful {reply : RelayReply} (replied : handling.reply = some reply) {call : WalletCall}
    (member : call ∈ handling.calls) {answered : Rpc.Response} (ok : call.reply = .ok answered) :
    PassesOn answered reply

/-- The handling of one payload, wherever the log stands. -/
structure Handles (host : RelayHost (StateM σ)) (world : σ) (handling : Handling) : Prop where
  replied : (host.answer handling.payload world).1 = handling.reply
  logged (calls : List WalletCall) : host.logged.answer handling.payload (world, calls) =
    (handling.reply, ((host.answer handling.payload world).2, calls ++ handling.calls))
  gatekept : host.Gatekept handling

theorem answer_of_malformed (host : RelayHost (StateM σ)) {payload : Json}
    (malformed : RelayRequest.ofPayload? payload = none) (world : σ) :
    host.answer payload world = (none, world) := by
  rw [answer, malformed]
  rfl

theorem answer_of_accepted (host : RelayHost (StateM σ)) {payload : Json} {request : RelayRequest}
    (accepted : RelayRequest.ofPayload? payload = some request) (world : σ) :
    host.answer payload world =
      (some (host.reply request world).1, (host.reply request world).2) := by
  rw [answer, accepted]
  rfl

/-- What the host answers by itself, without a call of the wallet. -/
theorem handles_own {host : RelayHost (StateM σ)} {payload : Json} {request : RelayRequest}
    {reply : RelayReply} (accepted : RelayRequest.ofPayload? payload = some request)
    (own : reply.id = request.id)
    (answered : host.reply request = pure reply)
    (answeredToo : host.logged.reply request = pure reply)
    (apart : ¬ (host.isNative = true ∧ request.method ≠ walletInfoMethod))
    (walletless : host.hasWallet = false → request.method ≠ walletInfoMethod →
      reply = .failure request.id noWallet) (world : σ) :
    host.Handles world { payload, reply := some reply, calls := [] } where
  replied := by
    rw [host.answer_of_accepted accepted, answered]
    rfl
  logged calls := by
    rw [host.logged.answer_of_accepted accepted, host.answer_of_accepted accepted, answered,
      answeredToo, List.append_nil]
    rfl
  gatekept :=
    { dropped := fun malformed => by cases accepted.symm.trans malformed
      answered := fun found => by
        cases accepted.symm.trans found
        exact ⟨reply, rfl, own⟩
      asked := fun found => by
        cases accepted.symm.trans found
        rw [if_neg apart]
        rfl
      walletless := fun found deserted other => by
        cases accepted.symm.trans found
        exact congrArg some (walletless deserted other)
      faithful := fun _ _ member => by cases member }

/-- What a wallet in the page is asked. -/
theorem handles_native (wallet : Sender (StateM σ)) (flavor : WalletFlavor) {payload : Json}
    {request : RelayRequest} (accepted : RelayRequest.ofPayload? payload = some request)
    (other : request.method ≠ walletInfoMethod) (world : σ) :
    let replied := wallet request.method (.list request.params) world
    (native wallet flavor).Handles world
      { payload, reply := some (nativeReply request.id replied.1)
        calls := [{ method := request.method, params := .list request.params,
                    reply := replied.1 }] } where
  replied := by
    rw [(native wallet flavor).answer_of_accepted accepted, reply_native wallet flavor other]
  logged calls := by
    rw [(native wallet flavor).logged.answer_of_accepted accepted,
      (native wallet flavor).answer_of_accepted accepted, logged,
      reply_native (Sender.logged wallet) flavor other, reply_native wallet flavor other]
    rfl
  gatekept :=
    { dropped := fun malformed => by cases accepted.symm.trans malformed
      answered := fun found => by
        cases accepted.symm.trans found
        exact ⟨_, rfl, nativeReply_id _ _⟩
      asked := fun found => by
        cases accepted.symm.trans found
        rw [if_pos ⟨rfl, other⟩]
        rfl
      walletless := fun _ deserted => by cases deserted
      faithful := fun replied call member answered ok => by
        cases replied
        cases List.mem_singleton.mp member
        dsimp only at ok
        rw [ok]
        exact nativeReply_passesOn request.id answered }

theorem handles_payload (host : RelayHost (StateM σ)) (payload : Json) (world : σ) :
    ∃ handling, handling.payload = payload ∧ host.Handles world handling := by
  cases accepted : RelayRequest.ofPayload? payload with
  | none =>
      refine ⟨{ payload, reply := none, calls := [] }, rfl, ?_, ?_, ?_⟩
      · rw [host.answer_of_malformed accepted]
      · intro calls
        rw [host.logged.answer_of_malformed accepted, host.answer_of_malformed accepted,
          List.append_nil]
      · exact
          { dropped := fun _ => ⟨rfl, rfl⟩
            answered := fun found => by cases accepted.symm.trans found
            asked := fun found => by cases accepted.symm.trans found
            walletless := fun found => by cases accepted.symm.trans found
            faithful := fun replied => by cases replied }
  | some request =>
      by_cases info : request.method = walletInfoMethod
      · refine ⟨_, rfl, handles_own accepted rfl (host.reply_walletInfo info) ?_
          (fun both => both.2 info) (fun _ other => absurd info other) world⟩
        rw [host.logged.reply_walletInfo info, host.logged_walletInfo]
      · cases host with
        | native wallet flavor =>
            exact ⟨_, rfl, handles_native wallet flavor accepted info world⟩
        | userAccount account network =>
            have apart : ¬ ((userAccount account network : RelayHost (StateM σ)).isNative = true ∧
                request.method ≠ walletInfoMethod) := fun both => by cases both.1
            cases account with
            | none =>
                exact ⟨_, rfl, handles_own accepted rfl (reply_deserted network info)
                  (reply_deserted network info) apart (fun _ _ => rfl) world⟩
            | some account =>
                exact ⟨_, rfl, handles_own accepted (accountReply_id account network request)
                  (reply_account account network info) (reply_account account network info) apart
                  (fun deserted => by cases deserted) world⟩

/-! ## Any payloads -/

theorem answers_cons (peer : RelayPeer (StateM σ)) (payload : Json) (rest : List Json)
    (world : σ) :
    (payload :: rest).mapM peer world =
      let first := peer payload world
      (first.1 :: (rest.mapM peer first.2).1, (rest.mapM peer first.2).2) := by
  rw [List.mapM_cons]
  rfl

/-- Whatever payloads come, and in whatever order, the host keeps its gate for each of them,
and the log of its wallet is what they made of it, in their order. -/
theorem gatekeeping (host : RelayHost (StateM σ)) (payloads : List Json) (world : σ) :
    ∃ handlings : List Handling,
      handlings.map Handling.payload = payloads ∧
      (payloads.mapM host.answer world).1 = handlings.map Handling.reply ∧
      (∀ calls, payloads.mapM host.logged.answer (world, calls) =
        (handlings.map Handling.reply,
          ((payloads.mapM host.answer world).2, calls ++ handlings.flatMap Handling.calls))) ∧
      ∀ handling ∈ handlings, host.Gatekept handling := by
  induction payloads generalizing world with
  | nil =>
      refine ⟨[], rfl, rfl, ?_, ?_⟩
      · intro calls
        rw [List.flatMap_nil, List.append_nil]
        rfl
      · intro handling member
        cases member
  | cons payload rest induction =>
      rcases host.handles_payload payload world with ⟨first, rfl, handles⟩
      rcases induction (host.answer first.payload world).2 with
        ⟨later, payloads, replies, log, gatekept⟩
      refine ⟨first :: later, congrArg (first.payload :: ·) payloads, ?_, ?_, ?_⟩
      · rw [answers_cons, List.map_cons, ← handles.replied, ← replies]
      · intro calls
        rw [answers_cons, answers_cons, handles.logged, List.map_cons, List.flatMap_cons,
          ← List.append_assoc]
        dsimp only
        rw [log]
      · exact List.forall_mem_cons.mpr ⟨handles.gatekept, gatekept⟩

end RelayHost

end LockGateway
