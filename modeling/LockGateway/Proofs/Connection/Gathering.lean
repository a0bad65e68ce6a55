import LockGateway.Proofs.Connection.Fronting
import LockGateway.Proofs.Rpc.Answering

/-! Calls that are made together, of which none can be at fault. In whatever order they are
sent and handled, all of them are replied to, each by the reply to its own request, over every
kind of connection. -/

namespace LockGateway

variable {σ : Type} {replies : String → Json → Reply → Prop}

namespace Carrier

/-- The numbers of the calls have no part in what may be replied. -/
theorem replied_of_after {calls : List BatchCall} {count : Nat} {answers : List Reply}
    (fitting : List.Forall₂ (fun made reply => made.call.Replied replies reply)
      (NumberedCall.after count calls) answers) :
    List.Forall₂ (BatchCall.Replied replies) calls answers := by
  have calling : ((NumberedCall.after count calls).map NumberedCall.call) = calls :=
    NumberedCall.after_calls count calls
  rw [← calling, List.forall₂_map_left_iff]
  exact fitting

/-- Something that refuses none of the calls that a host passes on, and replies to each as it
may be replied to. -/
structure Gives (carrier : Carrier (StateM σ)) (replies : String → Json → Reply → Prop) :
    Prop where
  accepts (id : UInt64) {method : String} {params : Json} (passes : PassesRelay method params) :
    carrier.refusal? (.make id method params) = none
  delivers (id : UInt64) {method : String} {params : Json} (passes : PassesRelay method params)
    (world : σ) : replies method params (carrier.deliver (.make id method params) world).1

theorem Gives.together {carrier : Carrier (StateM σ)} (gives : carrier.Gives replies)
    {calls : List BatchCall} (gathered : BatchCall.Gathered calls)
    (quiet : ∀ call ∈ calls, call.Quiet replies) (traffic : Traffic (StateM σ)) (world : σ) :
    ∃ answers, (carrier.together calls traffic world).1.1 = .ok answers ∧
      List.Forall₂ (BatchCall.Replied replies) calls answers := by
  have passes {made : NumberedCall} (member : made.call ∈ calls) :=
    (gathered.relayable made.call member).passes
  have own : carrier.Replies (fun made reply => made.call.Replied replies reply) calls := by
    constructor
    · intro made member error refused
      have accepted := gives.accepts (UInt64.ofNat made.number) (passes member)
      rw [NumberedCall.request, accepted] at refused
      cases refused
    · exact fun member world => gives.delivers _ (passes member) world
  have ends := together_ends own traffic world
  revert ends
  rcases carrier.together calls traffic world with ⟨⟨outcome, later⟩, laterWorld⟩
  intro ends
  cases ends with
  | @answered answers traffic out logged complete left fitting =>
      exact ⟨answers, rfl, replied_of_after (fitting.imp fun _ _ both => both.1)⟩
  | faulted logged member replied found =>
      have quietly := quiet _ (NumberedCall.mem_of_mem_after member) _ replied
      rw [quietly] at found
      cases found

theorem Gives.caller {carrier : Carrier (StateM σ)} (gives : carrier.Gives replies) :
    carrier.caller.Gives replies where
  call passes traffic world := by
    have accepted := gives.accepts (UInt64.ofNat (traffic.numbered + 1)) passes
    change replies _ _ (carrier.call _ _ traffic world).1.1
    rw [carrier.call_accepted traffic world accepted]
    exact gives.delivers _ passes _
  together gathered quiet traffic world := gives.together gathered quiet traffic world

end Carrier

/-! ## Connections -/

/-- What a gateway may get in reply to a call, from a node behind its connection. -/
def Backend.Forwards (backend : Backend (StateM σ)) (node : NodeM σ) (method : String)
    (params : Json) (reply : Reply) : Prop :=
  ∃ id world, reply = backend.passOn id (node (.make id method params) world).1

/-- Over every kind of connection calls are replied to by the node behind it. -/
theorem Backend.Fronts.gives {backend : Backend (StateM σ)} {node : NodeM σ}
    (fronts : backend.Fronts node) : backend.caller.Gives (backend.Forwards node) := by
  apply Carrier.Gives.caller
  constructor
  · intro id method params passes
    rcases passes with ⟨named, other, elements, rfl⟩
    exact backend.accepts elements named id
  · intro id method params passes world
    rcases passes with ⟨named, other, elements, rfl⟩
    exact ⟨id, world, congrArg Prod.fst (fronts.deliver_eq id named other elements world)⟩

end LockGateway
