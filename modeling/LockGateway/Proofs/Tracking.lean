import LockGateway.Transaction.Tracking

/-! How observations move a transaction. A status only moves ahead, a settled one does not
move at all, and a transaction is placed in a block just if it is settled. While that holds
no observation asks for a move that is not allowed. -/

namespace LockGateway

/-! ## Moves of a status -/

namespace TransactionStatus

/-- The moves of a status. A transaction may be settled before it is seen in a pool. -/
inductive Follows : TransactionStatus → TransactionStatus → Prop
  | seen : Follows submitted pending
  | mined {before : TransactionStatus} (unsettled : before.isFinal = false) :
      Follows before mined
  | failed {before : TransactionStatus} (unsettled : before.isFinal = false) :
      Follows before failed

/-- The most moves that lead to a status. -/
def rank : TransactionStatus → Nat
  | submitted => 0
  | pending => 1
  | mined | failed => 2

variable {before after : TransactionStatus}

theorem Follows.unsettled (follows : before.Follows after) : before.isFinal = false := by
  cases follows with
  | seen => rfl
  | mined unsettled => exact unsettled
  | failed unsettled => exact unsettled

theorem Follows.rank_lt (follows : before.Follows after) : before.rank < after.rank := by
  cases follows with
  | seen => decide
  | mined unsettled | failed unsettled =>
      cases before with
      | submitted | pending => decide
      | mined | failed => cases unsettled

/-- The moves from a status to a later one, in their order. -/
inductive Walks (first : TransactionStatus) :
    List TransactionStatus → TransactionStatus → Prop
  | rest : Walks first [] first
  | move {path : List TransactionStatus} {last next : TransactionStatus}
      (walks : Walks first path last) (follows : last.Follows next) :
      Walks first (path ++ [next]) next

theorem Walks.length_le {first last : TransactionStatus} {path : List TransactionStatus}
    (walks : Walks first path last) : first.rank + path.length ≤ last.rank := by
  induction walks with
  | rest => exact Nat.le_refl _
  | move walks follows induction =>
      have ahead := follows.rank_lt
      rw [List.length_append, List.length_singleton]
      omega

theorem rank_le (status : TransactionStatus) : status.rank ≤ 2 := by
  cases status <;> decide

end TransactionStatus

/-! ## Observations -/

/-- What is observed of a transaction that is not settled leaves it where it is or moves it
on, and it is then in a block just if that settles it. -/
theorem ChainObservation.step?_cases (observation : ChainObservation)
    {status : TransactionStatus} (unsettled : status.isFinal = false) :
    observation.step? status = none ∨
      ∃ step next reason, observation.step? status = some step ∧
        status.after step = .ok (next, reason) ∧ status.Follows next ∧
        (observation.blockNumber?.isSome = true ↔ next.isFinal = true) := by
  cases observation with
  | notFound => exact .inl rfl
  | inMempool =>
      cases status with
      | submitted => exact .inr ⟨_, _, _, rfl, rfl, .seen, by decide⟩
      | pending => exact .inl rfl
      | mined | failed => cases unsettled
  | included block success =>
      have placed (status : TransactionStatus) (final : status.isFinal = true) :
          (some block).isSome = true ↔ status.isFinal = true :=
        ⟨fun _ => final, fun _ => rfl⟩
      cases success with
      | true =>
          cases status with
          | submitted | pending => exact .inr ⟨_, _, _, rfl, rfl, .mined rfl, placed .mined rfl⟩
          | mined | failed => cases unsettled
      | false =>
          cases status with
          | submitted | pending => exact .inr ⟨_, _, _, rfl, rfl, .failed rfl, placed .failed rfl⟩
          | mined | failed => cases unsettled

namespace Transaction

/-- The transaction is in a block just if it is settled. -/
def Placed (transaction : Transaction) : Prop :=
  transaction.blockNumber.isSome = true ↔ transaction.status.isFinal = true

/-- What one attempt to follow a transaction answers, leaves of it and tells. -/
inductive Refreshes (before : Transaction) :
    Except GatewayError Bool → Transaction → List Event → Prop
  | failed (error : GatewayError) : Refreshes before (.error error) before []
  | kept : Refreshes before (.ok false) before []
  | moved {status : TransactionStatus} {blockNumber : Option UInt64}
      (follows : before.status.Follows status)
      (placed : blockNumber.isSome = true ↔ status.isFinal = true) :
      Refreshes before (.ok true) { before with status, blockNumber }
        [.transactionUpdated before.hash status]

theorem Refreshes.placed {before after : Transaction} {changed : Except GatewayError Bool}
    {events : List Event} (refreshes : before.Refreshes changed after events)
    (placed : before.Placed) : after.Placed := by
  cases refreshes with
  | failed error => exact placed
  | kept => exact placed
  | moved follows settled => exact settled

/-- A settled transaction stays as it is. -/
theorem Refreshes.of_settled {before after : Transaction} {changed : Except GatewayError Bool}
    {events : List Event} (refreshes : before.Refreshes changed after events)
    (settled : before.status.isFinal = true) : after = before ∧ events = [] := by
  cases refreshes with
  | failed error => exact ⟨rfl, rfl⟩
  | kept => exact ⟨rfl, rfl⟩
  | moved follows placed =>
      have unsettled := follows.unsettled
      rw [settled] at unsettled
      cases unsettled

/-- No observation of a placed transaction asks for a move that is not allowed. -/
theorem Placed.observed {transaction : Transaction} (placed : transaction.Placed)
    (observation : ChainObservation) :
    ∃ moved, (transaction.observe observation).changed = .ok moved ∧
      transaction.Refreshes (.ok moved) (transaction.observe observation).transaction
        (transaction.observe observation).events := by
  cases settled : transaction.status.isFinal with
  | true =>
      refine ⟨false, ?_⟩
      rw [observe, if_pos settled]
      exact ⟨rfl, .kept⟩
  | false =>
      have unplaced : transaction.blockNumber = none := by
        rw [← Option.not_isSome_iff_eq_none]
        intro isPlaced
        cases settled.symm.trans (Iff.mp placed isPlaced)
      rw [observe, settled, if_neg Bool.false_ne_true]
      rcases observation.step?_cases settled with
        still | ⟨step, next, reason, steps, allowed, follows, inBlock⟩
      · rw [still]
        exact ⟨false, rfl, .kept⟩
      · rw [steps, unplaced, Option.or_none]
        dsimp only
        rw [allowed]
        exact ⟨true, rfl, .moved follows inBlock⟩

end Transaction

end LockGateway
