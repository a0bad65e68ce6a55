import LockGateway.Proofs.Gateway.HandingIn
import LockGateway.Proofs.Gateway.History
import LockGateway.Proofs.Quantity
import LockGateway.Proofs.Tracking

/-! Transactions that are followed, from the order that handed them in on, over any gateways
and connections and whatever the nodes say. The client holds the transaction: each time it
is refreshed, it goes on from what the time before left of it. -/

namespace LockGateway

variable {σ : Type}

/-! ## What is asked -/

theorem Query.observe_eq (hash : Hash) :
    Query.observe hash =
      .call "eth_getTransactionByHash" (.list [.string hash.text]) fun reply =>
        match reply.result with
        | .error error => .done (.error error)
        | .ok found =>
            if found.isNull then .done (.ok .notFound)
            else .call "eth_getTransactionReceipt" (.list [.string hash.text]) fun reply =>
              .done (reply.result >>= ChainObservation.ofReceipt) := by
  refine congrArg (Query.call "eth_getTransactionByHash" (.list [.string hash.text])) ?_
  funext reply
  dsimp only
  cases reply.result with
  | error error => rfl
  | ok found =>
      change (if found.isNull then _ else _ : Query ChainObservation) =
        if found.isNull then _ else _
      cases found.isNull with
      | true => rfl
      | false =>
          refine congrArg (Query.call "eth_getTransactionReceipt" (.list [.string hash.text])) ?_
          funext reply
          exact Query.done_bind reply.result ChainObservation.ofReceipt

/-- The replies to the two calls for a transaction. -/
def Connection.observationReplies (connection : Connection (StateM σ))
    (undelivered : List (Delivery (StateM σ))) (hash : Hash) (world : σ) : Reply × Reply :=
  let found := connection.backend.caller.call "eth_getTransactionByHash"
    (.list [.string hash.text]) (.start connection.numbered undelivered) world
  let receipt := connection.backend.caller.call "eth_getTransactionReceipt"
    (.list [.string hash.text]) found.1.2 found.2
  (found.1.1, receipt.1.1)

theorem Reply.eq_of_result {reply : Reply} {fault : ValidationFault}
    (refused : reply.result = .error (.validation fault)) :
    reply = .error (.validation fault) := by
  cases reply with
  | error error => exact congrArg Except.error (Except.error.inj refused)
  | ok response =>
      rcases Outcome.mapError_eq_error_iff.mp refused with ⟨error, _, equal⟩
      cases equal

theorem ChainObservation.ofReceipt_error {receipt : Json} {error : GatewayError}
    (unread : ofReceipt receipt = .error error) : ∃ fault, error = .invalidResponse fault := by
  unfold ofReceipt at unread
  split at unread
  · cases unread
  · rcases Outcome.bind_eq_error_iff.mp unread with unplaced | ⟨block, _, unread⟩
    · exact Quantity.ofJson_error unplaced
    rcases Outcome.bind_eq_error_iff.mp unread with unfit | ⟨blockNumber, _, unread⟩
    · exact Quantity.toUInt64_error unfit
    split at unread
    · cases unread
    · cases unread
    · rcases Outcome.bind_eq_error_iff.mp unread with unknown | ⟨status, _, unread⟩
      · exact Quantity.ofJson_error unknown
      · cases unread

/-- Where a transaction stands is not refused by anybody but the node. -/
theorem Connection.observe_refused (connection : Connection (StateM σ))
    (undelivered : List (Delivery (StateM σ))) (hash : Hash) (world : σ)
    {fault : ValidationFault}
    (refused : (connection.answer undelivered (.observe hash) world).1.1 =
      .error (.validation fault)) :
    (connection.observationReplies undelivered hash world).1 = .error (.validation fault) ∨
      (connection.observationReplies undelivered hash world).2 = .error (.validation fault) := by
  let found := connection.backend.caller.call "eth_getTransactionByHash"
    (.list [.string hash.text]) (.start connection.numbered undelivered) world
  let receipt := connection.backend.caller.call "eth_getTransactionReceipt"
    (.list [.string hash.text]) found.1.2 found.2
  change found.1.1 = _ ∨ receipt.1.1 = _
  change (Query.runWith connection.backend.caller (.observe hash)
    (.start connection.numbered undelivered) world).1.1 = _ at refused
  rw [Query.observe_eq, Query.runWith_call] at refused
  change (Query.runWith connection.backend.caller (match found.1.1.result with
    | .error error => .done (.error error)
    | .ok found => _) found.1.2 found.2).1.1 = _ at refused
  cases replied : found.1.1.result with
  | error error =>
      rw [replied] at refused
      cases refused
      exact .inl (Reply.eq_of_result replied)
  | ok transaction =>
      rw [replied] at refused
      dsimp only at refused
      cases isNull : transaction.isNull with
      | true =>
          rw [isNull] at refused
          cases refused
      | false =>
          rw [isNull] at refused
          have read : receipt.1.1.result >>= ChainObservation.ofReceipt =
              .error (.validation fault) := refused
          rcases Outcome.bind_eq_error_iff.mp read with unanswered | ⟨told, _, unread⟩
          · exact .inr (Reply.eq_of_result unanswered)
          · rcases ChainObservation.ofReceipt_error unread with ⟨_, equal⟩
            cases equal

/-! ## One refresh -/

namespace Gateway

/-- Where a node behind the gateway says that a transaction stands. -/
def observed (gateway : Gateway (StateM σ)) (hash : Hash) (world : σ) :
    Except GatewayError ChainObservation :=
  (ask (.observe hash) (.start gateway) world).1.1

/-- The node does not answer one of the calls for a transaction, with this error. -/
def Unobserved (gateway : Gateway (StateM σ)) (hash : Hash) (world : σ) (error : GatewayError) :
    Prop :=
  ∃ connection, gateway.wallet = .ok connection ∧
    ((connection.observationReplies gateway.undelivered hash world).1 = .error error ∨
      (connection.observationReplies gateway.undelivered hash world).2 = .error error)

theorem observed_refused {gateway : Gateway (StateM σ)} {hash : Hash} {world : σ}
    {fault : ValidationFault}
    (refused : gateway.observed hash world = .error (.validation fault)) :
    gateway.Unobserved hash world (.validation fault) := by
  cases found : gateway.wallet with
  | ok connection =>
      have connected : (Session.start gateway).gateway.wallet = .ok connection := found
      unfold observed at refused
      rw [ask_connected connected] at refused
      exact ⟨connection, found, connection.observe_refused gateway.undelivered hash world refused⟩
  | error error =>
      have unusable : (Session.start gateway).gateway.wallet = .error error := found
      unfold observed at refused
      rw [ask_refused unusable] at refused
      cases refused
      unfold wallet at found
      split at found
      · cases found
      · split at found
        · cases found
        · cases found

end Gateway

/-- The calls that follow a transaction. -/
def followsTransaction (method : String) (_ : Json) : Prop :=
  method = "eth_getTransactionByHash" ∨ method = "eth_getTransactionReceipt"

theorem Query.observe_asks (hash : Hash) : (Query.observe hash).AsksOnly followsTransaction := by
  apply AsksOnly.bind (.send (.inl rfl))
  intro found
  split
  · trivial
  · apply AsksOnly.bind (.send (.inr rfl))
    intro receipt
    exact .ofExcept _

namespace Step

/-- Asks once where a transaction stands. -/
def refreshing (transaction : Transaction) (gateway : Gateway (StateM σ)) (world : σ) : Step σ :=
  ⟨.refreshTransaction transaction, gateway, world⟩

theorem refreshing_turn (transaction : Transaction) (gateway : Gateway (StateM σ)) (world : σ) :
    (refreshing transaction gateway world).turn.outcome =
        .ok (match gateway.observed transaction.hash world with
          | .error error => .refreshed (.error error) transaction
          | .ok observation =>
              .refreshed (transaction.observe observation).changed
                (transaction.observe observation).transaction) ∧
      (refreshing transaction gateway world).turn.events =
        match gateway.observed transaction.hash world with
        | .error _ => []
        | .ok observation => (transaction.observe observation).events := by
  have asks := Gateway.ask_asks (Query.observe_asks transaction.hash) (.start gateway) world
  let refreshed := Gateway.refreshTransaction transaction (.start gateway) world
  change Except.ok (Answer.refreshed refreshed.1.1.1 refreshed.1.1.2) = _ ∧
    refreshed.1.2.events = _
  dsimp only [refreshed]
  unfold Gateway.observed
  rw [Gateway.refreshTransaction_eq]
  revert asks
  rcases Gateway.ask (.observe transaction.hash) (.start gateway) world with
    ⟨⟨error | observation, after⟩, later⟩
  · intro asks
    exact ⟨rfl, asks.events⟩
  · intro asks
    refine ⟨rfl, ?_⟩
    dsimp only
    rw [asks.events]
    rfl

end Step

/-- However a placed transaction is refreshed, there is an answer. It fails just if the node
could not be asked, and then and without a move nothing changes and nothing is told. -/
theorem Transaction.Placed.refreshes {transaction : Transaction} (placed : transaction.Placed)
    (gateway : Gateway (StateM σ)) (world : σ) :
    ∃ changed after,
      (Step.refreshing transaction gateway world).turn.outcome = .ok (.refreshed changed after) ∧
      transaction.Refreshes changed after (Step.refreshing transaction gateway world).turn.events ∧
      ∀ error, changed = .error error ↔
        gateway.observed transaction.hash world = .error error := by
  rcases Step.refreshing_turn transaction gateway world with ⟨outcome, events⟩
  rw [outcome, events]
  cases gateway.observed transaction.hash world with
  | error error => exact ⟨.error error, transaction, rfl, .failed error, by simp⟩
  | ok observation =>
      rcases placed.observed observation with ⟨moved, changed, refreshes⟩
      dsimp only
      rw [changed]
      exact ⟨.ok moved, _, rfl, refreshes, by simp⟩

/-! ## Transactions that are followed -/

/-- The refreshes of a transaction, with the latest first, and what they left of it. Each may
go to another gateway, in whatever world. -/
inductive Followed (start : Transaction) : List (Step σ) → Transaction → Prop
  | start : Followed start [] start
  | refresh {steps : List (Step σ)} {current after : Transaction}
      {changed : Except GatewayError Bool} (followed : Followed start steps current)
      (gateway : Gateway (StateM σ)) (world : σ)
      (answered : (Step.refreshing current gateway world).turn.outcome =
        .ok (.refreshed changed after)) :
      Followed start (Step.refreshing current gateway world :: steps) after

/-- What was told in some steps, in the order in which that happened. -/
def told (steps : List (Step σ)) : List Event := steps.reverse.flatMap (·.turn.events)

/-- A transaction as it was once and as it is now, with what was told in between. -/
structure Transaction.Traces (start current : Transaction) (events : List Event) : Prop where
  same : current = { start with status := current.status, blockNumber := current.blockNumber }
  placed : current.Placed
  walked : ∃ path, start.status.Walks path current.status ∧
    events = path.map (.transactionUpdated start.hash)

namespace Followed

variable {start current : Transaction} {steps : List (Step σ)}

theorem traces (placed : start.Placed) (followed : Followed start steps current) :
    start.Traces current (told steps) := by
  induction followed with
  | start => exact ⟨rfl, placed, [], .rest, rfl⟩
  | @refresh steps current after changed followed gateway world answered induction =>
      rcases induction.placed.refreshes gateway world with ⟨_, _, outcome, refreshes, _⟩
      cases answered.symm.trans outcome
      have events : told (Step.refreshing current gateway world :: steps) =
          told steps ++ (Step.refreshing current gateway world).turn.events := by
        simp [told]
      rw [events]
      rcases induction.walked with ⟨path, walks, earlier⟩
      have stays : after.Placed := refreshes.placed induction.placed
      revert refreshes
      generalize (Step.refreshing current gateway world).turn.events = news
      intro refreshes
      cases refreshes with
      | failed error => exact ⟨induction.same, stays, path, walks, by simp [earlier]⟩
      | kept => exact ⟨induction.same, stays, path, walks, by simp [earlier]⟩
      | @moved status blockNumber follows inBlock =>
          refine ⟨?_, stays, path ++ [status], walks.move follows, ?_⟩
          · rw [induction.same]
          · have hash : current.hash = start.hash := by rw [induction.same]
            rw [earlier, hash, List.map_append]
            rfl

/-- Once a transaction is settled, it stays as it is and nothing more is told of it. -/
theorem settled (placed : start.Placed) (settled : start.status.isFinal = true)
    (followed : Followed start steps current) : current = start ∧ told steps = [] := by
  induction followed with
  | start => exact ⟨rfl, rfl⟩
  | @refresh steps current after changed followed gateway world answered induction =>
      rcases induction with ⟨equal, silent⟩
      subst equal
      rcases placed.refreshes gateway world with ⟨_, _, outcome, refreshes, _⟩
      cases answered.symm.trans outcome
      rcases refreshes.of_settled settled with ⟨same, news⟩
      refine ⟨same, ?_⟩
      rw [told, List.reverse_cons, List.flatMap_append, List.flatMap_singleton, news,
        List.append_nil]
      exact silent

end Followed

namespace Order

/-- An order answers with a transaction that has not moved yet. -/
theorem submitted_of_turn {order : Order} {gateway : Gateway (StateM σ)} {world : σ}
    {start : Transaction}
    (returned : (order.turn gateway world).outcome = .ok (.transaction start)) :
    start.status = .submitted ∧ start.blockNumber = none := by
  cases prepared : (order.prepare (.start gateway) world).1.1 with
  | error error => cases (ends_refused prepared).1.symm.trans returned
  | ok call =>
      rcases ends_handed prepared with ⟨reply, _, ends⟩
      rcases track_sent call order.kind reply with ⟨_, hash, _, _, tracked⟩ | ⟨error, _, tracked⟩
      · rw [tracked] at ends
        cases ends.2.symm.trans returned
        exact ⟨rfl, rfl⟩
      · rw [tracked] at ends
        cases ends.2.symm.trans returned

/-- A node that knows a lock of the first version, and tells of transactions what the world
holds. -/
def courier : Wallet (StateM Json) :=
  .plain fun request => do
    let told ← get
    return .ok (.success request.id (
      if request.method = "net_version" then .string "1"
      else if request.method = "eth_getCode" then .string "0x6080"
      else if request.method = "eth_sendTransaction" then
        .string "0x2a2a2a2a2a2a2a2a2a2a2a2a2a2a2a2a2a2a2a2a2a2a2a2a2a2a2a2a2a2a2a2a"
      else told))

def couriered : Gateway (StateM Json) :=
  (Operation.connect (.direct courier)).after (.new .standard) .null

def emptying : Order :=
  .withdraw { lock := .zero, account := .zero, amount := none, currency := none, decimals := 18 }

def failedReceipt : Json := .object [("blockNumber", .string "0x2a"), ("status", .string "0x0")]

/-- A transaction that an order answered with, however it was followed since: it is the same
but for its status, which only moved ahead, and its block, which it has just if it is
settled; and each move was told once, so at most two were. Once it is settled, nothing
changes any more. If it is refreshed again, there is an answer: it moved and that is told, or
nothing changes and nothing is told. No move is ever refused, so the refresh fails just if
the node cannot be asked, and as an invalid one only if the node itself says so. -/
theorem transaction_followed {order : Order} {gateway : Gateway (StateM σ)} {world : σ}
    {start current : Transaction} {steps : List (Step σ)}
    (returned : (order.turn gateway world).outcome = .ok (.transaction start))
    (followed : Followed start steps current) :
    start.status = .submitted ∧ start.Traces current (told steps) ∧ (told steps).length ≤ 2 ∧
      (current.status.isFinal = true → ∀ (more : List (Step σ)) (later : Transaction),
        Followed current more later → later = current ∧ told more = []) ∧
      (∀ observation, ∃ moved, (current.observe observation).changed = .ok moved) ∧
      ∀ (other : Gateway (StateM σ)) (now : σ), ∃ changed after,
        (Step.refreshing current other now).turn.outcome = .ok (.refreshed changed after) ∧
        current.Refreshes changed after (Step.refreshing current other now).turn.events ∧
        (∀ error, changed = .error error ↔ other.observed current.hash now = .error error) ∧
        ∀ fault, changed = .error (.validation fault) →
          other.Unobserved current.hash now (.validation fault) := by
  rcases submitted_of_turn returned with ⟨submitted, unplaced⟩
  have placed : start.Placed := by
    rw [Transaction.Placed, submitted, unplaced]
    decide
  have traces := followed.traces placed
  refine ⟨submitted, traces, ?_, ?_, ?_, ?_⟩
  · rcases traces.walked with ⟨path, walks, events⟩
    rw [events, List.length_map]
    have moves := walks.length_le
    have most := current.status.rank_le
    omega
  · intro settled more later further
    exact further.settled traces.placed settled
  · intro observation
    rcases traces.placed.observed observation with ⟨moved, changed, _⟩
    exact ⟨moved, changed⟩
  · intro other now
    rcases traces.placed.refreshes other now with ⟨changed, after, outcome, refreshes, fails⟩
    exact ⟨changed, after, outcome, refreshes, fails, fun fault refused =>
      Gateway.observed_refused ((fails _).mp refused)⟩

/-- The withdrawal is seen in a block where it failed. -/
theorem emptying_followed :
    ∃ start current,
      (emptying.turn couriered .null).outcome = .ok (.transaction start) ∧
      Followed start [Step.refreshing start couriered failedReceipt] current ∧
      current.status = .failed ∧
      start.status = .submitted ∧
      start.Traces current (told [Step.refreshing start couriered failedReceipt]) ∧
      (told [Step.refreshing start couriered failedReceipt]).length ≤ 2 ∧
      (current.status.isFinal = true → ∀ (more : List (Step Json)) (later : Transaction),
        Followed current more later → later = current ∧ told more = []) ∧
      (∀ observation, ∃ moved, (current.observe observation).changed = .ok moved) ∧
      ∀ (other : Gateway (StateM Json)) (now : Json), ∃ changed after,
        (Step.refreshing current other now).turn.outcome = .ok (.refreshed changed after) ∧
        current.Refreshes changed after (Step.refreshing current other now).turn.events ∧
        (∀ error, changed = .error error ↔ other.observed current.hash now = .error error) ∧
        ∀ fault, changed = .error (.validation fault) →
          other.Unobserved current.hash now (.validation fault) := by
  obtain ⟨start, returned⟩ :
      ∃ start, (emptying.turn couriered .null).outcome = .ok (.transaction start) := ⟨_, rfl⟩
  have submitted := (submitted_of_turn returned).1
  have seen : couriered.observed start.hash failedReceipt = .ok (.included 42 false) := rfl
  have followed : Followed start [Step.refreshing start couriered failedReceipt]
      { start with status := .failed, blockNumber := some 42 } := by
    have moved : start.observe (.included 42 false) =
        { changed := .ok true
          transaction := { start with status := .failed, blockNumber := some 42 }
          events := [.transactionUpdated start.hash .failed] } := by
      rw [Transaction.observe, submitted]
      rfl
    have answered := (Step.refreshing_turn start couriered failedReceipt).1
    rw [seen] at answered
    dsimp only at answered
    rw [moved] at answered
    exact .refresh .start couriered failedReceipt answered
  exact ⟨start, _, returned, followed, rfl, transaction_followed returned followed⟩

end Order

end LockGateway
