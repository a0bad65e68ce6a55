import LockGateway.Proofs.Relay.Relayable
import LockGateway.Proofs.Traffic

/-! Queries that are answered. If whatever may be replied to a call can be read, and no
call that is made together with others is ever at fault, a query comes to an answer, and
the answer is as good as the replies make it. -/

namespace LockGateway

variable {σ α β : Type} {replies : String → Json → Reply → Prop} {good : α → Prop}
  {better : β → Prop}

/-! ## What is read -/

/-- Whatever may be replied to the question is read as a good answer. -/
def Question.Answers (replies : String → Json → Reply → Prop) (good : α → Prop)
    (question : Question α) : Prop :=
  ∀ reply, replies question.method (.list question.params) reply →
    ∃ answer, question.read reply = .ok answer ∧ good answer

/-- A contract is called with success if its reply has bytes, and these are of the kind
that is asked for. -/
theorem Question.callContract_read {kind : Abi.ResultKind α} {contract : Address}
    {method : Abi.Signature} {arguments : List Abi.Value} {reply : Reply} {value : Json}
    {bytes : List UInt8} {answer : α} (replied : reply.result = .ok value)
    (carried : readHexData value = .ok bytes) (read : kind.read bytes = .ok answer) :
    (callContract kind contract method arguments).read reply = .ok answer := by
  apply Outcome.bind_eq_ok_iff.mpr
  refine ⟨value, replied, ?_⟩
  apply Outcome.bind_eq_ok_iff.mpr
  exact ⟨bytes, carried, Outcome.mapError_eq_ok_iff.mpr read⟩

/-- What may be replied to the call of a batch. -/
def BatchCall.Replied (replies : String → Json → Reply → Prop) (call : BatchCall)
    (reply : Reply) : Prop :=
  replies call.method (.list call.params) reply

/-- Nothing that may be replied to the call is at fault. -/
def BatchCall.Quiet (replies : String → Json → Reply → Prop) (call : BatchCall) : Prop :=
  ∀ reply, call.Replied replies reply → call.fault? reply = none

structure Batch.Answers (replies : String → Json → Reply → Prop) (good : α → Prop)
    (batch : Batch α) : Prop where
  quiet : ∀ call ∈ batch.calls, call.Quiet replies
  read {answers : List Reply}
    (fitting : List.Forall₂ (BatchCall.Replied replies) batch.calls answers) (rest : List Reply) :
    ∃ answer, batch.read (answers ++ rest) = .ok (answer, rest) ∧ good answer

namespace Batch.Answers

theorem pure {answer : α} (holds : good answer) :
    (Pure.pure answer : Batch α).Answers replies good where
  quiet := by
    intro call member
    cases member
  read fitting rest := by
    cases fitting
    exact ⟨answer, rfl, holds⟩

theorem one {question : Question α} (answers : question.Answers replies good) :
    (Batch.one question).Answers replies good where
  quiet := by
    intro call member reply replied
    rw [List.mem_singleton.mp member] at replied ⊢
    rcases answers reply replied with ⟨answer, read, _⟩
    dsimp only
    rw [read]
  read fitting rest := by
    cases fitting with
    | cons replied none =>
        cases none
        rcases answers _ replied with ⟨answer, read, holds⟩
        refine ⟨answer, ?_, holds⟩
        change (question.read _).map (·, rest) = _
        rw [read]
        rfl

theorem seq {function : Batch (α → β)} {argument : Batch α}
    (early : function.Answers replies fun function =>
      ∀ answer, good answer → better (function answer))
    (late : argument.Answers replies good) : (function <*> argument).Answers replies better where
  quiet := by
    intro call member
    rcases List.mem_append.mp member with first | second
    · exact early.quiet call first
    · exact late.quiet call second
  read := by
    intro answers fitting rest
    change List.Forall₂ _ (function.calls ++ argument.calls) answers at fitting
    have first := List.forall₂_take function.calls.length fitting
    have second := List.forall₂_drop function.calls.length fitting
    rw [List.take_left] at first
    rw [List.drop_left] at second
    rcases early.read first (answers.drop function.calls.length ++ rest) with
      ⟨read, readEqual, holds⟩
    rcases late.read second rest with ⟨answer, answerEqual, answerHolds⟩
    refine ⟨read answer, ?_, holds answer answerHolds⟩
    change (function.read (answers ++ rest) >>= fun found => (argument.read found.2).map fun last =>
      (found.1 last.1, last.2)) = _
    rw [← List.append_assoc, List.take_append_drop] at readEqual
    rw [readEqual]
    change (argument.read (answers.drop function.calls.length ++ rest)).map _ = _
    rw [answerEqual]
    rfl

theorem map {function : α → β} {batch : Batch α} (answers : batch.Answers replies good)
    (holds : ∀ answer, good answer → better (function answer)) :
    (function <$> batch).Answers replies better :=
  seq (pure holds) answers

end Batch.Answers

/-! ## Queries -/

/-- Whatever may be replied to its calls, the query comes to a good answer. -/
def Query.Answers (replies : String → Json → Reply → Prop) (good : α → Prop) : Query α → Prop
  | done outcome => ∃ answer, outcome = .ok answer ∧ good answer
  | call method params resume =>
      ∀ reply, replies method params reply → (resume reply).Answers replies good
  | together calls resume =>
      (∀ call ∈ calls, call.Quiet replies) ∧
        ∀ answers, List.Forall₂ (BatchCall.Replied replies) calls answers →
          (resume (.ok answers)).Answers replies good

namespace Query.Answers

theorem pure {answer : α} (holds : good answer) :
    (Pure.pure answer : Query α).Answers replies good :=
  ⟨answer, rfl, holds⟩

theorem bind {query : Query α} {next : α → Query β} (answers : query.Answers replies good)
    (nextAnswers : ∀ answer, good answer → (next answer).Answers replies better) :
    (query >>= next).Answers replies better := by
  change (query.bind next).Answers replies better
  induction query with
  | done outcome =>
      rcases answers with ⟨answer, equal, holds⟩
      rw [equal]
      exact nextAnswers answer holds
  | call method params resume induction =>
      intro reply replied
      exact induction reply (answers reply replied)
  | together calls resume induction =>
      refine ⟨answers.1, ?_⟩
      intro found fitting
      exact induction (.ok found) (answers.2 found fitting)

theorem ask {question : Question α} (answers : question.Answers replies good) :
    (Query.ask question).Answers replies good :=
  answers

theorem gather {batch : Batch α} (answers : batch.Answers replies good) :
    (Query.gather batch).Answers replies good := by
  refine ⟨answers.quiet, ?_⟩
  intro found fitting
  rcases answers.read fitting [] with ⟨answer, read, holds⟩
  rw [List.append_nil] at read
  refine ⟨answer, ?_, holds⟩
  change (batch.read found).map (·.1) = _
  rw [read]
  rfl

end Query.Answers

/-! ## Callers -/

/-- The calls of a query are replied to as they may be. Calls that are made together are
all replied to, if none of them can be at fault. -/
structure Caller.Gives (caller : Caller (TrafficM σ)) (replies : String → Json → Reply → Prop) :
    Prop where
  call {method : String} {params : Json} (passes : PassesRelay method params)
    (traffic : Traffic (StateM σ)) (world : σ) :
    replies method params (caller.call method params traffic world).1.1
  together {calls : List BatchCall} (gathered : BatchCall.Gathered calls)
    (quiet : ∀ call ∈ calls, call.Quiet replies) (traffic : Traffic (StateM σ)) (world : σ) :
    ∃ answers, (caller.callTogether calls traffic world).1.1 = .ok answers ∧
      List.Forall₂ (BatchCall.Replied replies) calls answers

theorem Query.Answers.runWith {caller : Caller (TrafficM σ)} (gives : caller.Gives replies)
    {query : Query α} (relayable : query.Relayable) (answers : query.Answers replies good)
    (traffic : Traffic (StateM σ)) (world : σ) :
    ∃ answer, (query.runWith caller traffic world).1.1 = .ok answer ∧ good answer := by
  induction query generalizing traffic world with
  | done outcome => exact answers
  | call method params resume induction =>
      rw [Query.runWith, TrafficM.bind_eq]
      apply induction
      · exact relayable.2.2 _
      · exact answers _ (gives.call relayable.1 traffic world)
  | together calls resume induction =>
      rcases gives.together relayable.1 answers.1 traffic world with ⟨found, equal, fitting⟩
      rw [Query.runWith, TrafficM.bind_eq, equal]
      apply induction
      · exact relayable.2.2 _
      · exact answers.2 found fitting

end LockGateway
