import LockGateway.Connection
import LockGateway.Proofs.Carrier.Course
import LockGateway.Proofs.Relay.Native
import LockGateway.Proofs.Rpc.Query

/-! What a connection sends: nothing but the calls of the query that is put to it, over every
kind of backend, whatever is replied and in whatever order things happen. -/

namespace LockGateway

variable {σ α : Type} {fits : String → Json → Prop}

/-! ## Callers -/

/-- A call sends requests for itself only, and so do calls that are made together. -/
structure Caller.SendsAsked (caller : Caller (TrafficM σ)) : Prop where
  call (method : String) (params : Json) (traffic : Traffic (StateM σ)) (world : σ) :
    Traffic.Sends (fun request => request.method = method ∧ request.params = params) traffic
      (caller.call method params traffic world).1.2
  together (calls : List BatchCall) (traffic : Traffic (StateM σ)) (world : σ) :
    Traffic.Sends (fun request => ∃ call ∈ calls, request.method = call.method ∧
      request.params = .list call.params) traffic
      (caller.callTogether calls traffic world).1.2

namespace Carrier

variable {carrier : Carrier (StateM σ)} {calls called : List BatchCall}
  {before traffic : Traffic (StateM σ)} {out : List NumberedCall}

theorem call_sends (carrier : Carrier (StateM σ)) (method : String) (params : Json)
    (traffic : Traffic (StateM σ)) (world : σ) :
    Traffic.Sends (fun request => request.method = method ∧ request.params = params) traffic
      (carrier.call method params traffic world).1.2 := by
  cases refused : carrier.refusal? (traffic.nextRequest method params) with
  | some error =>
      rw [carrier.call_refused traffic world refused]
      exact .of_sent_eq rfl
  | none =>
      rw [carrier.call_accepted traffic world refused]
      refine ⟨[traffic.nextRequest method params], rfl, ?_⟩
      rw [List.forall_mem_singleton]
      exact ⟨rfl, rfl⟩

theorem sends_of_logged (logged : Logged carrier calls before traffic called out) :
    Traffic.Sends (fun request => ∃ call ∈ calls, request.method = call.method ∧
      request.params = .list call.params) before traffic := by
  refine ⟨_, logged.sent, ?_⟩
  intro request member
  rcases List.mem_map.mp member with ⟨made, madeMember, rfl⟩
  have own := NumberedCall.mem_of_mem_after (logged.among.subset madeMember)
  exact ⟨made.call, logged.within.subset own, rfl, rfl⟩

theorem caller_sendsAsked (carrier : Carrier (StateM σ)) : carrier.caller.SendsAsked where
  call := carrier.call_sends
  together calls traffic world := by
    have replies : carrier.Replies (fun _ _ => True) calls :=
      ⟨fun _ _ _ => trivial, fun _ _ => trivial⟩
    change Traffic.Sends _ traffic (carrier.together calls traffic world).1.2
    have ends := together_ends replies traffic world
    revert ends
    rcases carrier.together calls traffic world with ⟨⟨outcome, later⟩, laterWorld⟩
    intro ends
    cases ends with
    | answered logged complete left own => exact sends_of_logged logged
    | faulted logged member own found => exact sends_of_logged logged

end Carrier

namespace Backend

variable (backend : Backend (StateM σ)) {method : String} (params : List Json) (named : method ≠ "")

include named

theorem accepts (id : UInt64) :
    backend.carrier.refusal? (.make id method (.list params)) = none := by
  cases backend with
  | direct wallet => rfl
  | http url server schedule => rfl
  | relay peer capacity schedule => exact RelayPeer.accepts id params named

/-- A call is sent, and what nobody waits for any more may be handled before it is. -/
theorem call_eq (traffic : Traffic (StateM σ)) (world : σ) :
    backend.caller.call method (.list params) traffic world =
      let request := traffic.nextRequest method (.list params)
      let replied := backend.carrier.deliver request (backend.carrier.arrival traffic world)
      ((replied.1, backend.carrier.called traffic request), replied.2) :=
  backend.carrier.call_accepted traffic world (backend.accepts params named _)

/-- A call is sent exactly once. -/
theorem call_sent (traffic : Traffic (StateM σ)) (world : σ) :
    (backend.caller.call method (.list params) traffic world).1.2.sent =
      traffic.sent ++ [.make (UInt64.ofNat (traffic.numbered + 1)) method (.list params)] := by
  rw [backend.call_eq params named]
  rfl

end Backend

/-! ## Queries -/

/-- A query goes on from the reply to its first call. -/
theorem Query.runWith_call (caller : Caller (TrafficM σ)) (method : String) (params : Json)
    (resume : Reply → Query α) (traffic : Traffic (StateM σ)) (world : σ) :
    (Query.call method params resume).runWith caller traffic world =
      let called := caller.call method params traffic world
      (resume called.1.1).runWith caller called.1.2 called.2 :=
  rfl

theorem Query.runWith_sends {caller : Caller (TrafficM σ)} (sends : caller.SendsAsked)
    {query : Query α} (asks : query.AsksOnly fits) (traffic : Traffic (StateM σ)) (world : σ) :
    Traffic.Sends (fun request => fits request.method request.params) traffic
      (query.runWith caller traffic world).1.2 := by
  induction query generalizing traffic world with
  | done outcome => exact .of_sent_eq rfl
  | call method params resume induction =>
      rw [runWith, TrafficM.bind_eq]
      refine Traffic.Sends.trans ((sends.call method params traffic world).mono ?_)
        (induction _ (asks.2 _) _ _)
      intro request equal
      rw [equal.1, equal.2]
      exact asks.1
  | together calls resume induction =>
      rw [runWith, TrafficM.bind_eq]
      refine Traffic.Sends.trans ((sends.together calls traffic world).mono ?_)
        (induction _ (asks.2 _) _ _)
      intro request own
      rcases own with ⟨call, member, method, params⟩
      rw [method, params]
      exact asks.1 call member

theorem Connection.answer_sends (connection : Connection (StateM σ)) {query : Query α}
    (asks : query.AsksOnly fits) (undelivered : List (Delivery (StateM σ))) (world : σ) :
    ∀ request ∈ (connection.answer undelivered query world).1.2.sent,
      fits request.method request.params := by
  rcases Query.runWith_sends connection.backend.carrier.caller_sendsAsked asks
    (.start connection.numbered undelivered) world with ⟨sent, equal, kinds⟩
  intro request member
  change request ∈ (query.runWith connection.backend.caller
    (.start connection.numbered undelivered) world).1.2.sent at member
  rw [Backend.caller, equal] at member
  exact kinds request member

end LockGateway
