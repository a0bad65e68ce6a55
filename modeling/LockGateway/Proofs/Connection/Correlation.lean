import LockGateway.Proofs.Connection.Sending
import LockGateway.Proofs.Http

/-! Whose reply it is. A server and the peer of a relay may send back whatever they like for
a request. Over both, an envelope counts only if it carries the id of that request. The reply
is a mismatch otherwise, which tells the two ids and nothing of what the envelope holds. -/

namespace LockGateway

variable {σ : Type}

namespace Reply

/-- A reply that may be taken for the one to the request with the expected id. A mismatch
tells of that request and of an id that is not its own. -/
def Correlated (expected : UInt64) : Reply → Prop
  | .ok response => response.id = some expected
  | .error (.transport (.idMismatch wanted received)) =>
      wanted = expected ∧ received ≠ some expected
  | .error _ => True

/-- A failure that is no mismatch. -/
def Missing (reply : Reply) : Prop :=
  ∃ error, reply = .error error ∧
    ∀ expected received, error ≠ .transport (.idMismatch expected received)

theorem Missing.correlated {reply : Reply} (missing : reply.Missing) (expected : UInt64) :
    reply.Correlated expected := by
  rcases missing with ⟨error, rfl, other⟩
  unfold Correlated
  split
  · contradiction
  · rename_i equal
    cases equal
    exact absurd rfl (other _ _)
  · trivial

end Reply

/-- An envelope is held to the id that it has to carry. -/
def Rpc.Response.heldTo (envelope : Rpc.Response) (expected : UInt64) : Reply :=
  if envelope.id = some expected then .ok envelope
  else .error (.transport (.idMismatch expected envelope.id))

theorem Rpc.Response.heldTo_eq_ok_iff {envelope response : Rpc.Response} {expected : UInt64} :
    envelope.heldTo expected = .ok response ↔
      envelope = response ∧ response.id = some expected := by
  rw [heldTo]
  by_cases own : envelope.id = some expected
  · rw [if_pos own]
    constructor
    · intro same
      cases same
      exact ⟨rfl, own⟩
    · rintro ⟨rfl, _⟩
      rfl
  · rw [if_neg own]
    constructor
    · intro same
      cases same
    · rintro ⟨rfl, other⟩
      exact absurd other own

theorem Rpc.Response.heldTo_correlated (envelope : Rpc.Response) (expected : UInt64) :
    (envelope.heldTo expected).Correlated expected := by
  rw [heldTo]
  by_cases own : envelope.id = some expected
  · rw [if_pos own]
    exact own
  · rw [if_neg own]
    exact ⟨rfl, own⟩

/-! ## What comes back -/

/-- The envelope in what a server sent back, whatever request it answers. Under other states
than success the body has to name an error. -/
def HttpExchange.envelope? : HttpExchange → Option Rpc.Response
  | unreachable => none
  | response status text => do
      let body ← Json.parse text
      if isSuccess status = true ∨ (body.member? "error").isSome then
        (Rpc.Response.ofJson body).toOption
      else none

namespace Backend

/-- The envelope that comes back for a request, whatever id it carries. There is none if the
request cannot be posted or is no payload, or if the message is lost. -/
def envelope? (backend : Backend (StateM σ)) (request : Rpc.Request) (world : σ) :
    Option Rpc.Response :=
  match backend with
  | direct wallet => (wallet.request request world).1.toOption
  | http url server _ => do
      let location ← Url.parse? url
      if location.isWeb then (server location request world).1.envelope? else none
  | relay peer _ _ => do
      let _ ← RelayRequest.ofPayload? request.toJson
      let reply ← (peer request.toJson world).1
      return reply.response

/-- What comes back from beyond the process. A wallet in the same process is believed. -/
def isRemote : Backend (StateM σ) → Bool
  | direct _ => false
  | http _ _ _ | relay _ _ _ => true

/-- What comes back is held to the id of the request, and nothing else is taken for a reply
to it. -/
structure Holds (returned : Option Rpc.Response) (request : Rpc.Request) (reply : Reply) :
    Prop where
  held (envelope : Rpc.Response) (some : returned = some envelope) :
    reply = envelope.heldTo request.id
  missing (none : returned = none) : reply.Missing

namespace Holds

variable {returned : Option Rpc.Response} {request : Rpc.Request} {reply : Reply}

theorem own (envelope : Rpc.Response) (request : Rpc.Request) :
    Holds (some envelope) request (envelope.heldTo request.id) where
  held other same := by
    cases same
    rfl
  missing none := by cases none

theorem nothing {error : GatewayError} (request : Rpc.Request)
    (other : ∀ expected received, error ≠ .transport (.idMismatch expected received)) :
    Holds none request (.error error) where
  held envelope some := by cases some
  missing _ := ⟨error, rfl, other⟩

theorem correlated (holds : Holds returned request reply) : reply.Correlated request.id := by
  cases returned with
  | none => exact (holds.missing rfl).correlated request.id
  | some envelope =>
      rw [holds.held envelope rfl]
      exact envelope.heldTo_correlated request.id

end Holds

end Backend

/-! ## Exchanges over HTTP -/

namespace HttpExchange

open Backend (Holds)

theorem readEnvelope_holds (request : Rpc.Request) (status : Nat) (body : Json) :
    Holds
      (if isSuccess status = true ∨ (body.member? "error").isSome then
        (Rpc.Response.ofJson body).toOption
      else none) request (readEnvelope request.id status body) := by
  by_cases counts : isSuccess status = true ∨ (body.member? "error").isSome
  · have accepted : ¬ (isSuccess status = false ∧ (body.member? "error").isNone = true) := by
      simpa [or_iff_not_imp_left, Option.isSome_iff_ne_none] using counts
    have reads : readEnvelope request.id status body = (do
        let envelope ← (Rpc.Response.ofJson body).mapError (.invalidResponse <| .noEnvelope ·)
        envelope.heldTo request.id) := by
      rw [readEnvelope, if_neg accepted]
      rfl
    rw [if_pos counts, reads]
    cases Rpc.Response.ofJson body with
    | error fault => exact .nothing request (by simp)
    | ok envelope => exact .own envelope request
  · have passedOver : isSuccess status = false ∧ (body.member? "error").isNone = true := by
      simpa using counts
    have refused : readEnvelope request.id status body = .error (.transport (.status status)) := by
      rw [readEnvelope, if_pos passedOver]
      rfl
    rw [if_neg counts, refused]
    exact .nothing request (by simp)

theorem reply_holds (exchange : HttpExchange) (url : String) (request : Rpc.Request) :
    Holds exchange.envelope? request (exchange.reply url request.id) := by
  cases exchange with
  | unreachable => exact .nothing request (by simp)
  | response status text =>
      rw [envelope?, reply]
      cases Json.parse text with
      | some body => exact readEnvelope_holds request status body
      | none =>
          dsimp only
          cases isSuccess status with
          | true => exact .nothing request (by simp)
          | false => exact .nothing request (by simp)

end HttpExchange

/-! ## Payloads -/

/-- A request is checked by the id that it was made with. -/
theorem RelayRequest.ofPayload?_id {request : Rpc.Request} {given : RelayRequest}
    (reads : ofPayload? request.toJson = some given) : given.id = request.id := by
  have held : request.toJson.member? "id" = some (.ofUInt64 request.id) := by
    simp [Rpc.Request.toJson, Rpc.Request.members, Json.ofMembers, Json.sortMembers,
      Json.member?, Json.lookup_insert]
  have number : id? (.ofUInt64 request.id) = some request.id := by
    simp [id?, Json.ofUInt64, Json.uint64?]
  simp only [ofPayload?, held, number, Option.bind_eq_bind, Option.bind_some,
    Option.bind_eq_some_iff] at reads
  rcases reads with ⟨_, _, method, _, reads⟩
  split at reads
  · cases reads
  · simp only [Option.bind_eq_some_iff] at reads
    rcases reads with ⟨_, _, params, _, made⟩
    cases made
    rfl

namespace Backend

/-- A reply with another id is refused, and a lost message is a closed channel. -/
theorem relay_deliver (peer : RelayPeer (StateM σ)) (request : Rpc.Request) (world : σ) :
    (peer.deliver request world).1 =
      match RelayRequest.ofPayload? request.toJson, (peer request.toJson world).1 with
      | none, _ => .error (.malformedRequest .malformedRelayRequest)
      | some _, none => .lost
      | some _, some reply => reply.response.heldTo request.id := by
  have made : (peer.deliver request world).1 =
      (peer.call request.toJson world).1.map RelayReply.response := rfl
  rw [made, RelayPeer.call]
  cases reads : RelayRequest.ofPayload? request.toJson with
  | none => rfl
  | some given =>
      change (RelayReply.check given.id (peer request.toJson world).1).map RelayReply.response = _
      rw [RelayRequest.ofPayload?_id reads]
      cases (peer request.toJson world).1 with
      | none => rfl
      | some reply =>
          change Except.map RelayReply.response (if reply.id = request.id then _ else _) =
            if some reply.id = some request.id then _ else _
          by_cases own : reply.id = request.id
          · rw [if_pos own, if_pos (congrArg some own)]
            rfl
          · rw [if_neg own, if_neg (own ∘ Option.some.inj)]
            rfl

theorem deliver_holds {backend : Backend (StateM σ)} (remote : backend.isRemote = true)
    (request : Rpc.Request) (world : σ) :
    Holds (backend.envelope? request world) request (backend.carrier.deliver request world).1 := by
  cases backend with
  | direct wallet => cases remote
  | http url server schedule =>
      change Holds _ request (server.post url request world).1
      rw [envelope?]
      cases parsed : Url.parse? url with
      | none =>
          rw [HttpServer.post, parsed]
          exact .nothing request (by simp)
      | some location =>
          change Holds (if location.isWeb then _ else _) _ _
          cases web : location.isWeb with
          | true =>
              rw [HttpServer.post_eq parsed web]
              exact (server location request world).1.reply_holds location.text request
          | false =>
              rw [HttpServer.post, parsed]
              simp only [web]
              exact .nothing request (by simp)
  | relay peer capacity schedule =>
      change Holds _ request (peer.deliver request world).1
      rw [envelope?, relay_deliver]
      cases RelayRequest.ofPayload? request.toJson with
      | none => exact .nothing request (by simp)
      | some given =>
          change Holds ((peer request.toJson world).1.bind _) _ _
          cases (peer request.toJson world).1 with
          | none => exact .nothing request (by simp)
          | some reply => exact .own reply.response request

/-- Only what is no payload is refused before it is sent. -/
theorem refused_deliver {backend : Backend (StateM σ)} {request : Rpc.Request}
    {error : GatewayError} (refused : backend.carrier.refusal? request = some error) (world : σ) :
    (backend.carrier.deliver request world).1 = .error error := by
  cases backend with
  | direct wallet => cases refused
  | http url server schedule => cases refused
  | relay peer capacity schedule =>
      change RelayPeer.refusal? request = some error at refused
      change (peer.deliver request world).1 = _
      rw [RelayPeer.refusal?] at refused
      rw [relay_deliver]
      cases reads : RelayRequest.ofPayload? request.toJson with
      | some given => simp [reads] at refused
      | none =>
          rw [reads] at refused
          cases refused
          rfl

/-! ## Calls -/

/-- What nobody waits for any more may be handled before the request is. -/
theorem call_deliver (backend : Backend (StateM σ)) (method : String) (params : Json)
    (traffic : Traffic (StateM σ)) (world : σ) :
    (backend.caller.call method params traffic world).1.1 =
      (backend.carrier.deliver (traffic.nextRequest method params)
        (backend.carrier.arrival traffic world)).1 := by
  change (backend.carrier.call method params traffic world).1.1 = _
  cases refused : backend.carrier.refusal? (traffic.nextRequest method params) with
  | none => rw [Carrier.call_accepted _ traffic world refused]
  | some error => rw [Carrier.call_refused _ traffic world refused, refused_deliver refused]

theorem call_holds {backend : Backend (StateM σ)} (remote : backend.isRemote = true)
    (method : String) (params : Json) (traffic : Traffic (StateM σ)) (world : σ) :
    let request := traffic.nextRequest method params
    Holds (backend.envelope? request (backend.carrier.arrival traffic world)) request
      (backend.caller.call method params traffic world).1.1 := by
  rw [call_deliver]
  exact deliver_holds remote _ _

/-! ## Batches -/

/-- The replies to the calls of a batch are those to its own requests, and so is the one that
ends it at a fault. -/
inductive CorrelatedAll (calls : List NumberedCall) : Except GatewayError (List Reply) → Prop
  | answered {replies : List Reply}
      (own : List.Forall₂ (fun made reply => reply.Correlated made.request.id) calls replies) :
      CorrelatedAll calls (.ok replies)
  | faulted {made : NumberedCall} {reply : Reply} {fault : GatewayError} (member : made ∈ calls)
      (own : reply.Correlated made.request.id) (found : made.call.fault? reply = some fault) :
      CorrelatedAll calls (.error fault)

theorem callTogether_correlated {backend : Backend (StateM σ)} (remote : backend.isRemote = true)
    (calls : List BatchCall) (traffic : Traffic (StateM σ)) (world : σ) :
    CorrelatedAll (NumberedCall.after traffic.numbered calls)
      (backend.caller.callTogether calls traffic world).1.1 := by
  have correlated (made : NumberedCall) (world : σ) :
      (backend.carrier.deliver made.request world).1.Correlated made.request.id :=
    (deliver_holds remote made.request world).correlated
  have replies : backend.carrier.Replies
      (fun made reply => reply.Correlated made.request.id) calls := by
    constructor
    · intro made _ error refused
      rw [← refused_deliver refused world]
      exact correlated made world
    · exact fun _ world => correlated _ world
  have ends := Carrier.together_ends replies traffic world
  change CorrelatedAll _ (backend.carrier.together calls traffic world).1.1
  revert ends
  rcases backend.carrier.together calls traffic world with ⟨⟨outcome, later⟩, laterWorld⟩
  intro ends
  cases ends with
  | answered logged complete left own => exact .answered (own.imp fun _ _ both => both.1)
  | faulted logged member own found => exact .faulted member own found

/-! ## Whatever comes back -/

/-- Over HTTP and over a relay, a call is answered exactly by an envelope with its own id.
One with another id, or with none, is a mismatch, and a lost message a closed channel. In a
batch every reply is held to the id of its own request too. -/
theorem replies_correlated {backend : Backend (StateM σ)} (remote : backend.isRemote = true)
    (traffic : Traffic (StateM σ)) (world : σ) :
    (∀ method params,
      let request := traffic.nextRequest method params
      let arrival := backend.carrier.arrival traffic world
      let reply := (backend.caller.call method params traffic world).1.1
      (∀ response, reply = .ok response ↔
        backend.envelope? request arrival = some response ∧ response.id = some request.id) ∧
      (∀ envelope, backend.envelope? request arrival = some envelope →
        envelope.id ≠ some request.id →
        reply = .error (.transport (.idMismatch request.id envelope.id))) ∧
      ∀ peer capacity schedule, backend = .relay peer capacity schedule →
        (RelayRequest.ofPayload? request.toJson).isSome → (peer request.toJson arrival).1 = none →
        reply = .error (.transport .channelClosed)) ∧
    ∀ calls, CorrelatedAll (NumberedCall.after traffic.numbered calls)
      (backend.caller.callTogether calls traffic world).1.1 := by
  refine ⟨?_, fun calls => callTogether_correlated remote calls traffic world⟩
  intro method params request arrival reply
  have holds : Holds (backend.envelope? request arrival) request reply :=
    call_holds remote method params traffic world
  refine ⟨?_, ?_, ?_⟩
  · intro response
    cases returned : backend.envelope? request arrival with
    | none =>
        rcases holds.missing returned with ⟨error, failed, _⟩
        simp [failed]
    | some envelope =>
        rw [holds.held envelope returned, Rpc.Response.heldTo_eq_ok_iff, Option.some_inj]
  · intro envelope returned other
    rw [holds.held envelope returned, Rpc.Response.heldTo, if_neg other]
  · rintro peer capacity schedule rfl payload lost
    have delivered : reply = _ := (call_deliver _ method params traffic world).trans
      (relay_deliver peer request arrival)
    rcases Option.isSome_iff_exists.mp payload with ⟨given, reads⟩
    rw [delivered, reads, lost]
    rfl

/-- A peer that answers another request. -/
def stranger : RelayPeer (StateM Unit) := fun _ => pure (some (.success 7 (.string "0x1")))

theorem stranger_refused :
    (relay stranger 1 .inTurn).isRemote = true ∧
      ((relay stranger 1 .inTurn).caller.call "eth_chainId" (.list []) (.start 0 []) ()).1.1 =
        .error (.transport (.idMismatch 1 (some 7))) := by
  have remote : (relay stranger 1 .inTurn).isRemote = true := rfl
  have refused := ((replies_correlated remote (.start 0 []) ()).1 "eth_chainId" (.list [])).2.1
  exact ⟨remote, refused (RelayReply.success 7 (.string "0x1")).response rfl (by decide)⟩

end Backend

end LockGateway
