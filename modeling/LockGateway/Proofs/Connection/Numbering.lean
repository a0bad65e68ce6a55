import LockGateway.Proofs.Connection.Sending
import LockGateway.Proofs.Relay.Relayable

/-! How the requests of a connection are numbered. A request takes the next number when it
is made, and a call that is made alone is sent at once. The calls of a batch are sent in any
order, unless there is room for all of them, and a fault may end the batch before all of them
are sent. -/

namespace LockGateway

variable {σ α β : Type}

/-! ## Numbers -/

/-- The requests have the numbers after a count, one after the other. -/
def Rpc.Consecutive (count : Nat) (requests : List Rpc.Request) : Prop :=
  requests.map Rpc.Request.id = (List.range' (count + 1) requests.length).map UInt64.ofNat

theorem Rpc.Consecutive.append {count : Nat} {early late : List Rpc.Request}
    (first : Consecutive count early) (second : Consecutive (count + early.length) late) :
    Consecutive count (early ++ late) := by
  unfold Consecutive at first second ⊢
  rw [List.map_append, first, second, List.length_append, ← List.map_append, Nat.add_right_comm,
    List.range'_append_1]

theorem NumberedCall.consecutive_after (count : Nat) (calls : List BatchCall) :
    Rpc.Consecutive count ((after count calls).map request) := by
  rw [Rpc.Consecutive, List.length_map, length_after, ← after_numbers, List.map_map, List.map_map]
  rfl

namespace Backend

/-- The calls that are made together when a lock is read. -/
def largestBatch : Nat := 6

/-- Whether the largest batch can be sent at once, with so many requests on their way. -/
def roomy : Backend (StateM σ) → (left : Nat) → Bool
  | direct _, _ => true
  | http _ _ _, _ => false
  | relay _ capacity _, left => left + largestBatch ≤ capacity

theorem roomy_of_le {backend : Backend (StateM σ)} {left more : Nat}
    (roomy : backend.roomy more = true) (fewer : left ≤ more) : backend.roomy left = true := by
  cases backend with
  | direct wallet => rfl
  | http url server schedule => cases roomy
  | relay peer capacity schedule =>
      have room := of_decide_eq_true roomy
      exact decide_eq_true (by omega)

theorem roomy_carrier {backend : Backend (StateM σ)} {left calls : Nat}
    (roomy : backend.roomy left = true) (few : calls ≤ largestBatch) :
    backend.carrier.Roomy (left + calls) := by
  intro onTheWay fewer
  cases backend with
  | direct wallet => rfl
  | http url server schedule => cases roomy
  | relay peer capacity schedule =>
      have room := of_decide_eq_true roomy
      exact decide_eq_true (by omega)

/-- From some traffic to a later one requests were made, and some of them sent. They may
have been `batched`, and a batch may have been `faulted`. -/
structure Makes (backend : Backend (StateM σ)) (faulted batched : Prop)
    (before after : Traffic (StateM σ)) (made sent : List Rpc.Request) : Prop where
  consecutive : Rpc.Consecutive before.numbered made
  counted : after.numbered = before.numbered + made.length
  among : sent.Subperm made
  complete (smooth : ¬ faulted) : sent.Perm made
  ordered (roomy : batched → backend.roomy before.undelivered.length = true) : sent = made
  left (smooth : ¬ faulted) : after.undelivered.length ≤ before.undelivered.length

namespace Makes

variable {backend : Backend (StateM σ)} {faulted batched : Prop}
  {first second third : Traffic (StateM σ)}

theorem none (backend : Backend (StateM σ)) (traffic : Traffic (StateM σ)) :
    backend.Makes faulted batched traffic traffic [] [] where
  consecutive := rfl
  counted := rfl
  among := .refl _
  complete _ := .refl _
  ordered _ := rfl
  left _ := Nat.le_refl _

/-- Nothing is made any more after a fault. -/
theorem trans {earlyMade lateMade earlySent lateSent : List Rpc.Request}
    (early : backend.Makes False batched first second earlyMade earlySent)
    (late : backend.Makes faulted batched second third lateMade lateSent) :
    backend.Makes faulted batched first third (earlyMade ++ lateMade) (earlySent ++ lateSent) where
  consecutive := by
    have following := late.consecutive
    rw [early.counted] at following
    exact early.consecutive.append following
  counted := by
    rw [late.counted, early.counted, List.length_append, Nat.add_assoc]
  among := early.among.append late.among
  complete smooth := (early.complete id).append (late.complete smooth)
  ordered roomy := by
    rw [early.ordered roomy,
      late.ordered fun batches => roomy_of_le (roomy batches) (early.left id)]
  left smooth := Nat.le_trans (late.left smooth) (early.left id)

theorem mono {faultedToo batchedToo : Prop} {made sent : List Rpc.Request}
    (makes : backend.Makes faulted batched first second made sent) (faults : faulted → faultedToo)
    (batches : batched → batchedToo) :
    backend.Makes faultedToo batchedToo first second made sent :=
  { makes with
    complete := fun smooth => makes.complete (smooth ∘ faults)
    ordered := fun roomy => makes.ordered (roomy ∘ batches)
    left := fun smooth => makes.left (smooth ∘ faults) }

end Makes

/-! ## Calls -/

/-- A call is sent as soon as it is made. -/
theorem call_makes (backend : Backend (StateM σ)) {method : String} {params : Json}
    (passes : PassesRelay method params) (traffic : Traffic (StateM σ)) (world : σ) :
    backend.Makes False False traffic (backend.caller.call method params traffic world).1.2
      [traffic.nextRequest method params] [traffic.nextRequest method params] := by
  rcases passes with ⟨named, _, elements, rfl⟩
  rw [backend.call_eq elements named]
  exact
    { consecutive := rfl
      counted := rfl
      among := .refl _
      complete := fun _ => .refl _
      ordered := fun _ => rfl
      left := fun _ => (Traffic.kept_sublist _ _).length_le }

theorem accepts_of_relayable (backend : Backend (StateM σ)) {calls : List BatchCall}
    (relayable : ∀ call ∈ calls, call.Relayable) : backend.carrier.Accepts calls := by
  intro call member number
  exact backend.accepts call.params (relayable call member).passes.named _

/-- What was made of a batch, and sent of it. -/
theorem makes_of_logged {backend : Backend (StateM σ)} {calls called : List BatchCall}
    (relayable : ∀ call ∈ calls, call.Relayable) (few : calls.length ≤ largestBatch)
    {before after : Traffic (StateM σ)} {out : List NumberedCall} {faulted : Prop}
    (logged : Logged backend.carrier calls before after called out)
    (complete : ¬ faulted → out.Perm (NumberedCall.after before.numbered called))
    (left : ¬ faulted → after.undelivered.length ≤ before.undelivered.length) :
    backend.Makes faulted (calls ≠ []) before after
      ((NumberedCall.after before.numbered called).map NumberedCall.request)
      (out.map NumberedCall.request) where
  consecutive := NumberedCall.consecutive_after _ _
  counted := by rw [logged.counted, List.length_map, NumberedCall.length_after]
  among := by
    rcases logged.among with ⟨same, perm, sublist⟩
    exact ⟨_, perm.map _, sublist.map _⟩
  complete smooth := (complete smooth).map _
  ordered roomy := by
    have accepts := backend.accepts_of_relayable relayable
    cases calls with
    | nil =>
        have none := List.prefix_nil.mp logged.within
        subst none
        rw [List.subperm_nil.mp logged.among]
        rfl
    | cons first rest =>
        have room := roomy_carrier (roomy (List.cons_ne_nil _ _)) few
        rw [logged.ordered accepts room]
  left

/-- A batch of calls makes requests, and ends early if it comes to a fault. -/
theorem together_makes (backend : Backend (StateM σ)) {calls : List BatchCall}
    (relayable : ∀ call ∈ calls, call.Relayable) (few : calls.length ≤ largestBatch)
    (traffic : Traffic (StateM σ)) (world : σ) :
    let ended := (backend.caller.callTogether calls traffic world).1
    ∃ made sent, ended.2.sent = traffic.sent ++ sent ∧
      backend.Makes (∃ error, ended.1 = .error error) (calls ≠ []) traffic ended.2 made sent := by
  have replies : backend.carrier.Replies (fun _ _ => True) calls :=
    ⟨fun _ _ _ => trivial, fun _ _ => trivial⟩
  have ends := Carrier.together_ends replies traffic world
  have same : backend.caller.callTogether calls = backend.carrier.together calls := rfl
  rw [same]
  revert ends
  rcases backend.carrier.together calls traffic world with ⟨⟨outcome, later⟩, laterWorld⟩
  intro ends
  cases ends with
  | answered logged complete left own =>
      refine ⟨_, _, logged.sent, makes_of_logged relayable few logged ?_ fun _ => left⟩
      exact fun _ => complete (backend.accepts_of_relayable relayable)
  | faulted logged member own found =>
      refine ⟨_, _, logged.sent, makes_of_logged relayable few logged ?_ ?_⟩
      · exact fun smooth => absurd ⟨_, rfl⟩ smooth
      · exact fun smooth => absurd ⟨_, rfl⟩ smooth

end Backend

/-! ## Queries -/

namespace Query

/-- Every batch of the query has so many calls at most, and a fault in it ends the query. -/
def BatchesWithin (limit : Nat) : Query α → Prop
  | done _ => True
  | call _ _ resume => ∀ reply, (resume reply).BatchesWithin limit
  | together calls resume =>
      calls.length ≤ limit ∧ (∀ error, resume (.error error) = .done (.error error)) ∧
        ∀ replies, (resume replies).BatchesWithin limit

/-- Some batch of the query comes to a fault. -/
def Faults (caller : Caller (TrafficM σ)) : Query α → Traffic (StateM σ) → σ → Prop
  | done _, _, _ => False
  | call method params resume, traffic, world =>
      let called := caller.call method params traffic world
      (resume called.1.1).Faults caller called.1.2 called.2
  | together calls resume, traffic, world =>
      let called := caller.callTogether calls traffic world
      (∃ error, called.1.1 = .error error) ∨
        (resume called.1.1).Faults caller called.1.2 called.2

namespace BatchesWithin

variable {limit : Nat}

theorem bind {query : Query α} {next : α → Query β} (within : query.BatchesWithin limit)
    (nextWithin : ∀ answer, (next answer).BatchesWithin limit) :
    (query >>= next).BatchesWithin limit := by
  change (query.bind next).BatchesWithin limit
  induction query with
  | done outcome =>
      cases outcome with
      | ok answer => exact nextWithin answer
      | error error => trivial
  | call method params resume induction =>
      exact fun reply => induction reply (within reply)
  | together calls resume induction =>
      refine ⟨within.1, ?_, fun replies => induction replies (within.2.2 replies)⟩
      intro error
      exact congrArg (·.bind next) (within.2.1 error)

theorem ofExcept (outcome : Except GatewayError α) :
    (Query.ofExcept outcome).BatchesWithin limit :=
  trivial

theorem send (method : String) (params : Json) : (Query.send method params).BatchesWithin limit :=
  fun _ => trivial

theorem ask (question : Question α) : (Query.ask question).BatchesWithin limit :=
  fun _ => trivial

theorem attempt_ask (question : Question α) : (Query.ask question).attempt.BatchesWithin limit :=
  fun _ => trivial

theorem gather {batch : Batch α} (few : batch.calls.length ≤ limit) :
    (Query.gather batch).BatchesWithin limit :=
  ⟨few, fun _ => rfl, fun _ => trivial⟩

/-! Only a lock is read with batches. -/

theorem network : Query.network.BatchesWithin limit := .ask _

theorem firstAccount : Query.firstAccount.BatchesWithin limit := by
  apply bind (.send _ _)
  intro accounts
  split
  · trivial
  · exact bind (.ofExcept _) fun _ => trivial

theorem code (address : Address) : (Query.code address).BatchesWithin limit := .send _ _

theorem handIn (call : ContractCall) : (Query.handIn call).BatchesWithin limit := by
  apply bind (.send _ _)
  intro answer
  exact bind (.ofExcept _) fun _ => trivial

theorem observe (hash : Hash) : (Query.observe hash).BatchesWithin limit := by
  apply bind (.send _ _)
  intro found
  split
  · trivial
  · exact bind (.send _ _) fun _ => .ofExcept _

theorem sign (method : String) (params : Json) : (Query.sign method params).BatchesWithin limit :=
  bind (.ofExcept _) fun _ _ => trivial

theorem resolve (registry : VersionRegistry) (kind : ContractKind) (address : Address) :
    (registry.resolve kind address).BatchesWithin limit := by
  unfold VersionRegistry.resolve
  cases registry.cached? kind address with
  | some version => trivial
  | none =>
      apply bind
      · apply bind (code address)
        intro code
        split
        · apply bind (.attempt_ask _)
          intro outcome
          exact bind (.ofExcept _) fun _ => .ofExcept _
        · trivial
      · intro version
        trivial

theorem readLock (version : ContractVersion) (lock : Address) :
    (version.readLock lock).BatchesWithin Backend.largestBatch := by
  have figures : (version.figures lock).calls.length ≤ Backend.largestBatch := Nat.le_refl 6
  apply bind (.gather figures)
  intro found
  apply bind
  · unfold ContractVersion.readToken
    split
    · exact .ask _
    · trivial
  · intro token
    apply bind
    · unfold ContractVersion.readVersion
      split
      · exact bind (.ask _) fun _ => trivial
      · trivial
    · intro publicLockVersion
      refine bind ?_ fun _ => .ofExcept _
      unfold ContractVersion.readBalance
      split
      · exact bind (.ask _) fun _ => trivial
      · have balance : (ContractVersion.tokenBalance lock token).calls.length ≤
            Backend.largestBatch := by
          change 2 ≤ 6
          decide
        exact .gather balance

end BatchesWithin

/-- What a query makes of the traffic of a connection. -/
theorem runWith_makes (backend : Backend (StateM σ)) {query : Query α} (relayable : query.Relayable)
    {limit : Nat} (within : query.BatchesWithin limit) (few : limit ≤ Backend.largestBatch)
    (traffic : Traffic (StateM σ)) (world : σ) :
    ∃ made sent, (query.runWith backend.caller traffic world).1.2.sent = traffic.sent ++ sent ∧
      backend.Makes (query.Faults backend.caller traffic world) (limit ≠ 0) traffic
        (query.runWith backend.caller traffic world).1.2 made sent := by
  induction query generalizing traffic world with
  | done outcome => exact ⟨[], [], (List.append_nil _).symm, .none backend traffic⟩
  | call method params resume induction =>
      rcases relayable.1 with ⟨named, _, elements, rfl⟩
      have sent := backend.call_sent elements named traffic world
      have makes := backend.call_makes relayable.1 traffic world
      rw [runWith_call, Faults]
      rcases induction _ (relayable.2.2 _) (within _) (backend.caller.call method (.list elements)
        traffic world).1.2 (backend.caller.call method (.list elements) traffic world).2 with
        ⟨made, sentLater, equal, makesLater⟩
      refine ⟨_ :: made, _ :: sentLater, ?_, (makes.mono id False.elim).trans makesLater⟩
      rw [equal, sent, List.append_assoc]
      rfl
  | together calls resume induction =>
      have made := backend.together_makes relayable.1.relayable (Nat.le_trans within.1 few)
        traffic world
      have batched (some : calls ≠ []) : limit ≠ 0 := by
        have positive := List.length_pos_iff.mpr some
        have bounded := within.1
        omega
      rw [runWith, TrafficM.bind_eq, Faults]
      revert made
      rcases backend.caller.callTogether calls traffic world
        with ⟨⟨error | replies, later⟩, laterWorld⟩
      · intro own
        rcases own with ⟨made, sent, equal, makes⟩
        dsimp only
        rw [within.2.1 error]
        exact ⟨made, sent, equal, makes.mono .inl batched⟩
      · intro own
        rcases own with ⟨made, sent, equal, makes⟩
        rcases induction _ (relayable.2.2 _) (within.2.2 _) later laterWorld with
          ⟨madeLater, sentLater, equalLater, makesLater⟩
        have smooth : ¬ ∃ error : GatewayError, Except.ok replies = .error error := by
          intro fault
          rcases fault with ⟨error, equal⟩
          cases equal
        refine ⟨made ++ madeLater, sent ++ sentLater, ?_,
          (makes.mono smooth batched).trans (makesLater.mono .inr id)⟩
        rw [equalLater, ← List.append_assoc]
        exact congrArg (· ++ sentLater) equal

/-- Without batches nothing comes to a fault. -/
theorem BatchesWithin.not_faults (backend : Backend (StateM σ)) {query : Query α}
    (single : query.BatchesWithin 0) (traffic : Traffic (StateM σ)) (world : σ) :
    ¬ query.Faults backend.caller traffic world := by
  induction query generalizing traffic world with
  | done outcome => exact id
  | call method params resume induction => exact induction _ (single _) _ _
  | together calls resume induction =>
      have none : calls = [] := List.length_eq_zero_iff.mp (Nat.le_zero.mp single.1)
      subst none
      rintro (⟨error, fault⟩ | later)
      · have replies : backend.carrier.Replies (fun _ _ => True) [] :=
          ⟨fun _ _ _ => trivial, fun _ _ => trivial⟩
        have ends := Carrier.together_ends replies traffic world
        change (backend.carrier.together [] traffic world).1.1 = _ at fault
        rw [fault] at ends
        cases ends with
        | faulted logged member own found => cases member
      · exact induction _ (single.2.2 _) _ _ later

end Query

end LockGateway
