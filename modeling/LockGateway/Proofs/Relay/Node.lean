import LockGateway.Proofs.Carrier.Course
import LockGateway.Proofs.Connection.Fronting
import LockGateway.Proofs.Relay.Relayable

/-! A node that answers out of what it was asked so far. The calls of a batch reach it in the
order in which they were made, or in any other; then it depends on the node whether one can
tell. Calls that are made alone reach it as they are, over every kind of connection. -/

namespace LockGateway

variable {α β : Type}

/-! ## Orders -/

/-- A request goes out, or is handled, before all that were made after it. -/
def Move.InOrder : Move → Prop
  | .post position | .handle position => position = 0
  | .make | .look _ | .settle _ => True

def Schedule.InOrder (schedule : Schedule) : Prop :=
  ∀ numbered left calls, ∀ move ∈ schedule numbered left calls, move.InOrder

theorem Move.inTurn_inOrder (calls : Nat) : ∀ move ∈ inTurn calls, move.InOrder := by
  intro move member
  rcases List.mem_flatten.mp member with ⟨turn, among, inside⟩
  rw [List.eq_of_mem_replicate among] at inside
  simp only [List.mem_cons, List.not_mem_nil, or_false] at inside
  rcases inside with rfl | rfl | rfl | rfl
  · trivial
  · rfl
  · rfl
  · trivial

/-- A call as a node sees it. -/
def BatchCall.asked (call : BatchCall) : String × Json := (call.method, .list call.params)

/-- The items of both lists stand for the same calls in the same order, but for those of a
batch, which may have changed places unless all is orderly. -/
inductive Reordered (asks : α → String × Json) (orderly : Bool) : List α → List α → Prop
  | nil : Reordered asks orderly [] []
  | call (item : α) {items images : List α} (rest : Reordered asks orderly items images) :
      Reordered asks orderly (item :: items) (item :: images)
  | batch {calls : List BatchCall} (joined : BatchCall.Joined calls) {together image : List α}
      (own : (together.map asks).Perm (calls.map BatchCall.asked)) (perm : image.Perm together)
      (inOrder : orderly = true → image = together) {items images : List α}
      (rest : Reordered asks orderly items images) :
      Reordered asks orderly (together ++ items) (image ++ images)

namespace Reordered

variable {asks : α → String × Json} {orderly : Bool} {items images : List α}

theorem refl (items : List α) : Reordered asks orderly items items := by
  induction items with
  | nil => exact .nil
  | cons item rest induction => exact .call item induction

theorem append (early : Reordered asks orderly items images) {later laterImages : List α}
    (late : Reordered asks orderly later laterImages) :
    Reordered asks orderly (items ++ later) (images ++ laterImages) := by
  induction early with
  | nil => exact late
  | call item rest induction => exact .call item induction
  | batch joined own perm inOrder rest induction =>
      rw [List.append_assoc, List.append_assoc]
      exact .batch joined own perm inOrder induction

theorem together {calls : List BatchCall} (joined : BatchCall.Joined calls) {batch image : List α}
    (own : (batch.map asks).Perm (calls.map BatchCall.asked)) (perm : image.Perm batch)
    (inOrder : orderly = true → image = batch) : Reordered asks orderly batch image := by
  rw [← List.append_nil batch, ← List.append_nil image]
  exact .batch joined own perm inOrder .nil

theorem eq_of_orderly (same : Reordered asks true items images) : images = items := by
  induction same with
  | nil => rfl
  | call item rest induction => rw [induction]
  | batch joined own perm inOrder rest induction => rw [inOrder rfl, induction]

theorem perm (same : Reordered asks orderly items images) : images.Perm items := by
  induction same with
  | nil => exact .refl _
  | call item rest induction => exact induction.cons item
  | batch joined own perm inOrder rest induction => exact perm.append induction

theorem map {asksToo : β → String × Json} {form : α → β}
    (asksSame : ∀ item, asksToo (form item) = asks item)
    (same : Reordered asks orderly items images) :
    Reordered asksToo orderly (items.map form) (images.map form) := by
  induction same with
  | nil => exact .nil
  | call item rest induction => exact .call _ induction
  | batch joined own perm inOrder rest induction =>
      rw [List.map_append, List.map_append]
      refine .batch joined ?_ (perm.map form) (fun kept => by rw [inOrder kept]) induction
      rw [List.map_map]
      exact (List.Perm.of_eq (List.map_congr_left fun item _ => asksSame item)).trans own

end Reordered

/-! ## Nodes -/

/-- A node: how it replies to a call, by the calls that it has seen before. -/
abbrev Node := (seen : List (String × Json)) → (method : String) → (params : Json) → Reply

/-- The calls that a node has seen. -/
abbrev Node.Seen := List (String × Json)

namespace Node

def serve (node : Node) : Sender (StateM Seen) := fun method params => do
  let seen ← get
  set (seen ++ [(method, params)])
  return node seen method params

def receive (node : Node) : NodeM Seen := fun request => node.serve request.method request.params

/-- The node behind a wallet in the same process, which lets everybody in. -/
def wallet (node : Node) (flavor : WalletFlavor) (schedule : Schedule) : Wallet (StateM Seen) where
  request := node.receive
  schedule
  isMetamask := flavor = .metaMask
  enable := pure (.ok ())

/-- The node behind the host of a relay. -/
def peer (node : Node) (flavor : WalletFlavor) : RelayPeer (StateM Seen) :=
  (RelayHost.native node.serve flavor).answer

/-- The order of a batch makes no difference to the node. -/
structure Indifferent (node : Node) : Prop where
  within {calls : List BatchCall} (joined : BatchCall.Joined calls) {earlier : List BatchCall}
    {call : BatchCall} (among : (earlier ++ [call]).Subperm calls) (seen : Seen) :
    node (seen ++ earlier.map BatchCall.asked) call.method (.list call.params) =
      node seen call.method (.list call.params)
  after {seen image : Seen} (same : Reordered id false seen image) (method : String)
    (params : Json) : node image method params = node seen method params

theorem answer_eq {node : Node} {orderly : Bool} {seen image : Seen}
    (indifferent : orderly = false → node.Indifferent) (same : Reordered id orderly seen image)
    (method : String) (params : Json) : node image method params = node seen method params := by
  cases orderly with
  | true => rw [same.eq_of_orderly]
  | false => exact (indifferent rfl).after same method params

/-! ## What a node is asked -/

end Node

/-- A fault in the reply to this call would be seen before the node has seen the whole batch,
at least if the calls of a batch do not reach it in order. -/
def BatchCall.Trusted (orderly : Bool) (call : BatchCall) : Prop :=
  ∃ calls, Joined calls ∧ call ∈ if orderly then calls.dropLast else calls

namespace Node

/-- No call that the node has seen failed, and its answers to calls that are trusted can be
read. -/
structure Answers (node : Node) (orderly : Bool) (seen : Seen) : Prop where
  answers {earlier later : Seen} {method : String} {params : Json}
    (asked : seen = earlier ++ (method, params) :: later) :
    ∃ response, node earlier method params = .ok response
  readable {earlier later : Seen} {call : BatchCall} (trusted : call.Trusted orderly)
    (asked : seen = earlier ++ call.asked :: later) :
    call.fault? (node earlier call.method (.list call.params)) = none

/-- The order of a batch makes no difference to the node, if it is not kept. -/
structure Serves (node : Node) (orderly : Bool) (seen : Seen) : Prop
    extends Answers node orderly seen where
  indifferent (anyOrder : orderly = false) : node.Indifferent

/-- The node was asked more, but never about the wallet of a relay's host. -/
def Grows (seen further : Seen) : Prop :=
  ∃ asked, further = seen ++ asked ∧ ∀ call ∈ asked, call.1 ≠ walletInfoMethod

namespace Grows

theorem refl (seen : Seen) : Grows seen seen :=
  ⟨[], by simp⟩

theorem trans {first second third : Seen} (early : Grows first second)
    (late : Grows second third) : Grows first third := by
  rcases early with ⟨earlyAsked, rfl, earlyOther⟩
  rcases late with ⟨lateAsked, rfl, lateOther⟩
  refine ⟨earlyAsked ++ lateAsked, List.append_assoc _ _ _, ?_⟩
  exact List.forall_mem_append.mpr ⟨earlyOther, lateOther⟩

theorem call {method : String} {params : Json} (passes : PassesRelay method params)
    (seen : Seen) : Grows seen (seen ++ [(method, params)]) :=
  ⟨[(method, params)], rfl, List.forall_mem_singleton.mpr passes.other⟩

end Grows

theorem Serves.of_grows {node : Node} {orderly : Bool} {seen further : Seen}
    (serves : node.Serves orderly further) (grows : Grows seen further) :
    node.Serves orderly seen := by
  rcases grows with ⟨rest, rfl, _⟩
  refine ⟨⟨?_, ?_⟩, serves.indifferent⟩
  · intro earlier later method params asked
    exact serves.answers (by rw [asked, List.append_assoc]; rfl)
  · intro earlier later call trusted asked
    exact serves.readable trusted (by rw [asked, List.append_assoc]; rfl)

/-- Whenever the request is handled, the node is only asked more. -/
def Bears (delivery : Delivery (StateM Seen)) : Prop :=
  ∀ seen, Grows seen (delivery.make seen).2

theorem settledAt_grows {left : List (Delivery (StateM Seen))}
    (bears : ∀ delivery ∈ left, Bears delivery)
    (position : Nat) (seen : Seen) : Grows seen (Traffic.settledAt position left seen) := by
  rw [Traffic.settledAt]
  cases found : left[position]? with
  | none => exact .refl seen
  | some delivery => exact bears delivery (List.mem_of_getElem? found) seen

theorem attended_grows (moves : List Move) {left : List (Delivery (StateM Seen))}
    (bears : ∀ delivery ∈ left, Bears delivery) (seen : Seen) :
    Grows seen (Traffic.attended moves left seen) := by
  induction moves generalizing left seen with
  | nil => exact .refl seen
  | cons move rest induction =>
      cases move with
      | settle position =>
          have others : ∀ delivery ∈ left.eraseIdx position, Bears delivery :=
            fun delivery member => bears delivery (List.mem_of_mem_eraseIdx member)
          exact (settledAt_grows bears position seen).trans (induction others _)
      | _ => exact induction bears seen

end Node

/-! ## Connections to a node -/

namespace Backend

open Node (Seen Grows Bears)

variable {node : Node} {backend : Backend (StateM Seen)}

theorem Fronts.delivers (fronts : backend.Fronts node.receive) (id : UInt64) {method : String}
    {params : Json} (passes : PassesRelay method params) (seen : Seen) :
    backend.carrier.deliver (.make id method params) seen =
      (backend.passOn id (node seen method params), seen ++ [(method, params)]) := by
  rcases passes with ⟨named, other, elements, rfl⟩
  exact fronts.deliver_eq id named other elements seen

theorem Fronts.bears (fronts : backend.Fronts node.receive) (id : UInt64) {method : String}
    {params : Json} (passes : PassesRelay method params) :
    Bears ⟨backend.carrier.deliver, .make id method params⟩ := by
  intro seen
  change Grows seen (backend.carrier.deliver (.make id method params) seen).2
  rw [fronts.delivers id passes]
  exact .call passes seen

theorem passOn_alike (backend : Backend (StateM Seen)) (id : UInt64) (response : Rpc.Response) :
    Reply.Alike (.ok response) (backend.passOn id (.ok response)) := by
  rw [passOn]
  split
  · exact RelayHost.nativeReply_alike id response
  · exact .ok ⟨rfl, rfl⟩

theorem Fronts.called (fronts : backend.Fronts node.receive) {method : String} {params : Json}
    (passes : PassesRelay method params) (traffic : Traffic (StateM Seen)) (seen : Seen) :
    backend.caller.call method params traffic seen =
      let request := traffic.nextRequest method params
      let arrival := backend.carrier.arrival traffic seen
      ((backend.passOn request.id (node arrival method params),
        backend.carrier.called traffic request), arrival ++ [(method, params)]) := by
  rcases passes with ⟨named, other, elements, rfl⟩
  rw [backend.call_eq elements named]
  dsimp only
  rw [Traffic.nextRequest, fronts.delivers _ ⟨named, other, elements, rfl⟩]
  rfl

end Backend

/-! ## Numbers of requests -/

/-- The same request under the next number. -/
def Rpc.Request.shifted (request : Request) : Request := { request with id := request.id + 1 }

def Rpc.Request.asked (request : Request) : String × Json := (request.method, request.params)

theorem Rpc.Request.shifted_make (number : Nat) (method : String) (params : Json) :
    (Request.make (UInt64.ofNat number) method params).shifted =
      .make (UInt64.ofNat (number + 1)) method params := by
  rw [UInt64.ofNat_add]
  rfl

/-- The traffic of a relay is one number ahead, for the question that opened it. -/
structure Traffic.Shifted {m : Type → Type} (orderly : Bool)
    (traffic relayed : Traffic m) : Prop where
  numbered : relayed.numbered = traffic.numbered + 1
  sent : Reordered Rpc.Request.asked orderly (traffic.sent.map Rpc.Request.shifted) relayed.sent
  left : traffic.undelivered = []
  relayedLeft : relayed.undelivered = []

end LockGateway
