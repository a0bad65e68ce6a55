import LockGateway.Proofs.Traffic
import LockGateway.Relay

/-! A wallet in the page of a relay's host, as the gateway finds it: a call survives its way
through a payload, reaches the wallet as it is, and comes back with the reply in the host's
own form. -/

namespace LockGateway

variable {σ : Type}

/-! ## Payloads -/

/-- What the gateway posts is a well-formed payload, and reads as what was asked. -/
theorem RelayRequest.ofPayload?_toJson (id : UInt64) {method : String} (params : List Json)
    (named : method ≠ "") :
    RelayRequest.ofPayload? (Rpc.Request.make id method (.list params)).toJson =
      some { method, params, id } := by
  have found (key : String) :
      (Rpc.Request.make id method (.list params)).toJson.member? key =
        if "params" = key then some (.list params)
        else if "method" = key then some (.string method)
        else if "id" = key then some (.ofUInt64 id)
        else if "jsonrpc" = key then some (.string "2.0") else none := by
    simp [Rpc.Request.make, Rpc.Request.toJson, Rpc.Request.members, Json.ofMembers,
      Json.sortMembers, Json.member?, Json.lookup_insert, Json.lookup]
  have number : RelayRequest.id? (.ofUInt64 id) = some id := by
    simp [RelayRequest.id?, Json.ofUInt64, Json.uint64?]
  rw [ofPayload?, found, found, found]
  simp [Json.string?, Json.list?, number, named]

theorem RelayPeer.accepts (id : UInt64) {method : String} (params : List Json)
    (named : method ≠ "") : refusal? (.make id method (.list params)) = none := by
  rw [refusal?, RelayRequest.ofPayload?_toJson id params named]
  rfl

/-! ## Deliveries -/

namespace RelayHost

theorem nativeReply_id (id : UInt64) (reply : Reply) : (nativeReply id reply).id = id := by
  cases reply with
  | ok response => rfl
  | error error => rfl

/-- A reply of the host carries the id of the request, so it is never refused. -/
theorem answer_deliver (host : RelayHost (StateM σ)) (id : UInt64) {method : String}
    (named : method ≠ "") (params : List Json) (world : σ)
    (correlated : (host.reply { method, params, id } world).1.id = id) :
    host.answer.deliver (.make id method (.list params)) world =
      (.ok (host.reply { method, params, id } world).1.response,
        (host.reply { method, params, id } world).2) := by
  have payload := RelayRequest.ofPayload?_toJson id params named
  have answered : host.answer (Rpc.Request.make id method (.list params)).toJson world =
      (some (host.reply { method, params, id } world).1,
        (host.reply { method, params, id } world).2) := by
    unfold answer
    rw [payload]
    rfl
  have called : host.answer.call (Rpc.Request.make id method (.list params)).toJson world =
      (.ok (host.reply { method, params, id } world).1,
        (host.reply { method, params, id } world).2) := by
    unfold RelayPeer.call
    rw [payload]
    change (RelayReply.check id (host.answer _ world).1, (host.answer _ world).2) = _
    rw [answered, RelayReply.check]
    simp only [correlated, if_true]
  change ((host.answer.call (Rpc.Request.make id method (.list params)).toJson world).1.map
      RelayReply.response,
    (host.answer.call (Rpc.Request.make id method (.list params)).toJson world).2) = _
  rw [called]
  rfl

theorem native_deliver (node : Sender (StateM σ)) (flavor : WalletFlavor) (id : UInt64)
    {method : String} (named : method ≠ "") (other : method ≠ walletInfoMethod)
    (params : List Json) (world : σ) :
    (native node flavor).answer.deliver (.make id method (.list params)) world =
      (.ok (nativeReply id (node method (.list params) world).1).response,
        (node method (.list params) world).2) := by
  have passed : (native node flavor).reply { method, params, id } world =
      (nativeReply id (node method (.list params) world).1,
        (node method (.list params) world).2) := by
    unfold reply
    rw [if_neg other]
    rfl
  rw [answer_deliver _ id named params world, passed]
  rw [passed]
  exact nativeReply_id id _

end RelayHost

end LockGateway
