import LockGateway.Rpc.Query

/-! What a query can ask for, whatever is replied to it. -/

namespace LockGateway.Query

variable {α β : Type} {fits : String → Json → Prop}

/-- What is read from an outcome at hand takes no call. -/
theorem done_bind (outcome : Except GatewayError α) (read : α → Except GatewayError β) :
    (done outcome >>= fun answer => done (read answer)) = done (outcome >>= read) := by
  cases outcome with
  | error error => rfl
  | ok answer => rfl

/-- Every call that the query may make, after any replies, has a fitting method and
fitting parameters. -/
def AsksOnly (fits : String → Json → Prop) : Query α → Prop
  | done _ => True
  | call method params resume => fits method params ∧ ∀ reply, (resume reply).AsksOnly fits
  | together calls resume =>
      (∀ call ∈ calls, fits call.method (.list call.params)) ∧
        ∀ replies, (resume replies).AsksOnly fits

namespace AsksOnly

theorem ofExcept (outcome : Except GatewayError α) : (Query.ofExcept outcome).AsksOnly fits :=
  trivial

theorem bind {query : Query α} {next : α → Query β} (asks : query.AsksOnly fits)
    (nextAsks : ∀ answer, (next answer).AsksOnly fits) : (query >>= next).AsksOnly fits := by
  change (query.bind next).AsksOnly fits
  induction query with
  | done outcome =>
      cases outcome with
      | ok answer => exact nextAsks answer
      | error error => trivial
  | call method params resume induction =>
      exact ⟨asks.1, fun reply => induction reply (asks.2 reply)⟩
  | together calls resume induction =>
      exact ⟨asks.1, fun replies => induction replies (asks.2 replies)⟩

theorem attempt {query : Query α} (asks : query.AsksOnly fits) : query.attempt.AsksOnly fits := by
  induction query with
  | done outcome => trivial
  | call method params resume induction =>
      exact ⟨asks.1, fun reply => induction reply (asks.2 reply)⟩
  | together calls resume induction =>
      exact ⟨asks.1, fun replies => induction replies (asks.2 replies)⟩

theorem send {method : String} {params : Json} (fit : fits method params) :
    (Query.send method params).AsksOnly fits :=
  ⟨fit, fun _ => trivial⟩

theorem ask {question : Question α} (fit : fits question.method (.list question.params)) :
    (Query.ask question).AsksOnly fits :=
  ⟨fit, fun _ => trivial⟩

end AsksOnly

end LockGateway.Query
