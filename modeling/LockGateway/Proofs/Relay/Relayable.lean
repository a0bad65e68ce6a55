import Mathlib.Data.List.Forall2
import LockGateway.Gateway.Operation
import LockGateway.Proofs.Rpc.ErrorObject

/-! Queries that come to the same over a relay. The host puts replies in a form of its
own, in which they still carry the same error and the same result; no query of the
gateway tells such replies apart. -/

namespace LockGateway

variable {α β : Type}

/-! ## Alike replies -/

/-- The same error is read from both responses, and the same result. -/
structure Rpc.Response.Alike (response relayed : Response) : Prop where
  errorObject : relayed.errorObject? = response.errorObject?
  result : relayed.result = response.result

inductive Reply.Alike : Reply → Reply → Prop
  | ok {response relayed : Rpc.Response} (alike : response.Alike relayed) :
      Alike (.ok response) (.ok relayed)
  | error (error : GatewayError) : Alike (.error error) (.error error)

theorem Reply.Alike.result_eq {reply relayed : Reply} (alike : reply.Alike relayed) :
    relayed.result = reply.result := by
  cases alike with
  | error error => rfl
  | ok alike =>
      unfold Reply.result Rpc.Response.outcome
      dsimp only
      rw [alike.errorObject, alike.result]

/-- The host reads the error of a response, and the gateway reads what the host wrote. -/
theorem RelayHost.nativeReply_alike (id : UInt64) (response : Rpc.Response) :
    Reply.Alike (.ok response) (.ok (nativeReply id (.ok response)).response) := by
  refine .ok ⟨?_, rfl⟩
  rcases response with ⟨answered, result, error⟩
  cases error with
  | none => rfl
  | some value =>
      cases value with
      | null => rfl
      | _ => exact congrArg some (Rpc.ErrorObject.ofValue_toJson _)

/-- A call that failed is an error with nothing but a text. -/
theorem RelayHost.nativeReply_error (id : UInt64) (error : GatewayError) :
    (nativeReply id (.error error)).response.errorObject? =
      some { code := Rpc.ErrorObject.unspecifiedCode, message := error.message, data := none } :=
  rfl

/-! ## Calls -/

/-- A host passes the call on to its wallet. -/
structure PassesRelay (method : String) (params : Json) : Prop where
  named : method ≠ ""
  other : method ≠ walletInfoMethod
  listed : ∃ elements, params = .list elements

structure BatchCall.Relayable (call : BatchCall) : Prop where
  passes : PassesRelay call.method (.list call.params)
  same {reply relayed : Reply} (alike : reply.Alike relayed) :
    call.fault? relayed = call.fault? reply

structure Question.Relayable (question : Question α) : Prop where
  passes : PassesRelay question.method (.list question.params)
  same {reply relayed : Reply} (alike : reply.Alike relayed) :
    question.read relayed = question.read reply

theorem PassesRelay.of_list {method : String} (elements : List Json)
    (named : method ≠ "" ∧ method ≠ walletInfoMethod) :
    PassesRelay method (.list elements) :=
  ⟨named.1, named.2, elements, rfl⟩

/-- The calls that the gateway makes together. -/
inductive BatchCall.Joined : List BatchCall → Prop
  | figures (version : ContractVersion) (lock : Address) : Joined (version.figures lock).calls
  | tokenBalance (lock token : Address) : Joined (ContractVersion.tokenBalance lock token).calls

/-! ## Questions -/

namespace Question.Relayable

theorem callContract (kind : Abi.ResultKind α) (contract : Address) (method : Abi.Signature)
    (arguments : List Abi.Value) :
    (Question.callContract kind contract method arguments).Relayable where
  passes := by
    change PassesRelay "eth_call" _
    exact .of_list _ (by decide)
  same alike := by
    unfold Question.callContract
    dsimp only
    rw [alike.result_eq]

theorem getter (kind : Abi.ResultKind α) (contract : Address) (name : String) :
    (Question.getter kind contract name).Relayable :=
  callContract kind contract (.getter name) []

theorem quantity {method : String} (params : List Json)
    (passes : PassesRelay method (.list params)) :
    (Question.quantity method params).Relayable where
  passes
  same alike := by
    unfold Question.quantity
    dsimp only
    rw [alike.result_eq]

theorem fitting {question : Question Word} (relayable : question.Relayable) (name : String) :
    (question.fitting name).Relayable where
  passes := relayable.passes
  same alike := by
    unfold Question.fitting
    dsimp only
    rw [relayable.same alike]

theorem blockNumber : Question.blockNumber.Relayable :=
  (quantity [] (.of_list _ (by decide))).fitting "blockNumber"

end Question.Relayable

/-! ## Batches -/

namespace Batch

/-- The same is read from alike replies, and what is left of them is alike. -/
inductive SameRead :
    Except GatewayError (α × List Reply) → Except GatewayError (α × List Reply) → Prop
  | error (error : GatewayError) : SameRead (.error error) (.error error)
  | ok (answer : α) {replies relayed : List Reply}
      (alike : List.Forall₂ Reply.Alike replies relayed) :
      SameRead (.ok (answer, replies)) (.ok (answer, relayed))

structure Relayable (batch : Batch α) : Prop where
  calls : ∀ call ∈ batch.calls, call.Relayable
  same {replies relayed : List Reply} (alike : List.Forall₂ Reply.Alike replies relayed) :
    SameRead (batch.read replies) (batch.read relayed)

namespace Relayable

theorem pure (answer : α) : (Pure.pure answer : Batch α).Relayable where
  calls := fun _ member => by cases member
  same := .ok answer

theorem one {question : Question α} (relayable : question.Relayable) :
    (Batch.one question).Relayable where
  calls := by
    intro call member
    rw [List.mem_singleton.mp member]
    refine ⟨relayable.passes, ?_⟩
    intro reply relayed alike
    dsimp only
    rw [relayable.same alike]
  same := by
    have reads {first second : Reply} {replies relayed : List Reply} (alike : first.Alike second)
        (later : List.Forall₂ Reply.Alike replies relayed) :
        SameRead ((question.read first).map (·, replies))
          ((question.read second).map (·, relayed)) := by
      rw [relayable.same alike]
      cases question.read first with
      | error error => exact .error error
      | ok answer => exact .ok answer later
    intro replies relayed alike
    cases alike with
    | nil => exact reads (.error _) .nil
    | cons alike later => exact reads alike later

theorem seq {function : Batch (α → β)} {argument : Batch α} (early : function.Relayable)
    (late : argument.Relayable) : (function <*> argument).Relayable where
  calls := by
    intro call member
    rcases List.mem_append.mp member with first | second
    · exact early.calls call first
    · exact late.calls call second
  same := by
    intro replies relayed alike
    change SameRead
      (function.read replies >>= fun read => (argument.read read.2).map fun found =>
        (read.1 found.1, found.2))
      (function.read relayed >>= fun read => (argument.read read.2).map fun found =>
        (read.1 found.1, found.2))
    have first := early.same alike
    revert first
    generalize function.read replies = read, function.read relayed = other
    intro first
    cases first with
    | error error => exact .error error
    | ok answer rest =>
        have second := late.same rest
        change SameRead ((argument.read _).map _) ((argument.read _).map _)
        revert second
        generalize argument.read _ = read, argument.read _ = other
        intro second
        cases second with
        | error error => exact .error error
        | ok found last => exact .ok (answer found) last

theorem map (function : α → β) {batch : Batch α} (relayable : batch.Relayable) :
    (function <$> batch).Relayable :=
  (pure function).seq relayable

end Relayable

end Batch

/-! ## Queries -/

/-- Calls that may be made together over a relay. -/
structure BatchCall.Gathered (calls : List BatchCall) : Prop where
  joined : BatchCall.Joined calls
  relayable : ∀ call ∈ calls, call.Relayable

namespace Query

def Relayable : Query α → Prop
  | done _ => True
  | call method params resume =>
      PassesRelay method params ∧
        (∀ reply relayed, reply.Alike relayed → resume relayed = resume reply) ∧
        ∀ reply, (resume reply).Relayable
  | together calls resume =>
      BatchCall.Gathered calls ∧
        (∀ replies relayed, List.Forall₂ Reply.Alike replies relayed →
          resume (.ok relayed) = resume (.ok replies)) ∧
        ∀ replies, (resume replies).Relayable

namespace Relayable

theorem bind {query : Query α} {next : α → Query β} (relayable : query.Relayable)
    (nextRelayable : ∀ answer, (next answer).Relayable) : (query >>= next).Relayable := by
  change (query.bind next).Relayable
  induction query with
  | done outcome =>
      cases outcome with
      | ok answer => exact nextRelayable answer
      | error error => trivial
  | call method params resume induction =>
      refine ⟨relayable.1, ?_, fun reply => induction reply (relayable.2.2 reply)⟩
      intro reply relayed alike
      exact congrArg (·.bind next) (relayable.2.1 reply relayed alike)
  | together calls resume induction =>
      refine ⟨relayable.1, ?_, fun replies => induction replies (relayable.2.2 replies)⟩
      intro replies relayed alike
      exact congrArg (·.bind next) (relayable.2.1 replies relayed alike)

theorem attempt {query : Query α} (relayable : query.Relayable) : query.attempt.Relayable := by
  induction query with
  | done outcome => trivial
  | call method params resume induction =>
      refine ⟨relayable.1, ?_, fun reply => induction reply (relayable.2.2 reply)⟩
      intro reply relayed alike
      exact congrArg Query.attempt (relayable.2.1 reply relayed alike)
  | together calls resume induction =>
      refine ⟨relayable.1, ?_, fun replies => induction replies (relayable.2.2 replies)⟩
      intro replies relayed alike
      exact congrArg Query.attempt (relayable.2.1 replies relayed alike)

theorem ofExcept (outcome : Except GatewayError α) : (Query.ofExcept outcome).Relayable :=
  trivial

theorem send {method : String} {params : Json} (passes : PassesRelay method params) :
    (Query.send method params).Relayable := by
  refine ⟨passes, ?_, fun _ => trivial⟩
  intro reply relayed alike
  exact congrArg done alike.result_eq

theorem ask {question : Question α} (relayable : question.Relayable) :
    (Query.ask question).Relayable := by
  refine ⟨relayable.passes, ?_, fun _ => trivial⟩
  intro reply relayed alike
  exact congrArg done (relayable.same alike)

theorem gather {batch : Batch α} (relayable : batch.Relayable)
    (joined : BatchCall.Joined batch.calls) : (Query.gather batch).Relayable := by
  refine ⟨⟨joined, relayable.calls⟩, ?_, fun _ => trivial⟩
  intro replies relayed alike
  have same := relayable.same alike
  change Query.done ((batch.read relayed).map (·.1)) = .done ((batch.read replies).map (·.1))
  revert same
  generalize batch.read replies = read, batch.read relayed = other
  intro same
  cases same with
  | error error => rfl
  | ok answer alike => rfl

/-! ## The queries of the gateway -/

theorem network : Query.network.Relayable :=
  .ask ((Question.Relayable.quantity [] (.of_list _ (by decide))).fitting "net_version")

theorem firstAccount : Query.firstAccount.Relayable := by
  apply bind (.send (.of_list _ (by decide)))
  intro accounts
  split
  · trivial
  · exact bind (.ofExcept _) fun _ => trivial

theorem code (address : Address) : (Query.code address).Relayable :=
  .send (.of_list _ (by decide))

theorem handIn (call : ContractCall) : (Query.handIn call).Relayable := by
  apply bind (.send (.of_list _ (by decide)))
  intro answer
  exact bind (.ofExcept _) fun _ => trivial

theorem observe (hash : Hash) : (Query.observe hash).Relayable := by
  apply bind (.send (.of_list _ (by decide)))
  intro found
  split
  · trivial
  · exact bind (.send (.of_list _ (by decide))) fun _ => .ofExcept _

theorem sign {method : String} {params : Json} (passes : PassesRelay method params) :
    (Query.sign method params).Relayable := by
  apply bind (.ofExcept _)
  intro state
  refine ⟨passes, ?_, fun _ => trivial⟩
  intro reply relayed alike
  cases alike with
  | error error => rfl
  | ok alike =>
      unfold signatureOf
      dsimp only
      rw [alike.errorObject, alike.result]

theorem signData (flavor : WalletFlavor) (account : Address) (data : Json) :
    (Query.signData flavor account data).Relayable := by
  cases flavor with
  | metaMask => exact sign (.of_list _ (by decide))
  | generic => exact sign (.of_list _ (by decide))

theorem signPersonal (account : Address) (message : String) :
    (Query.signPersonal account message).Relayable :=
  sign (.of_list _ (by decide))

theorem resolve (registry : VersionRegistry) (kind : ContractKind) (address : Address) :
    (registry.resolve kind address).Relayable := by
  unfold VersionRegistry.resolve
  cases registry.cached? kind address with
  | some version => trivial
  | none =>
      apply bind
      · apply bind (code address)
        intro code
        split
        · apply bind (.attempt (.ask (.getter _ _ _)))
          intro outcome
          exact bind (.ofExcept _) fun _ => .ofExcept _
        · trivial
      · intro version
        trivial

theorem figures (version : ContractVersion) (lock : Address) :
    (Query.gather (version.figures lock)).Relayable := by
  refine .gather ?_ (.figures version lock)
  apply Batch.Relayable.seq
  · apply Batch.Relayable.seq
    · apply Batch.Relayable.seq
      · apply Batch.Relayable.seq
        · exact ((Batch.Relayable.one (.getter _ _ _)).map _).seq (.one (.getter _ _ _))
        · exact .one (.getter _ _ _)
      · exact .one (.getter _ _ _)
    · exact .one ((Question.Relayable.getter _ _ _).fitting _)
  · exact .one .blockNumber

theorem readBalance (lock token : Address) :
    (ContractVersion.readBalance lock token).Relayable := by
  unfold ContractVersion.readBalance
  split
  · exact bind (.ask (.quantity _ (.of_list _ (by decide)))) fun _ => trivial
  · refine .gather ?_ (.tokenBalance lock token)
    exact ((Batch.Relayable.one (.callContract _ _ _ _)).map _).seq (.one (.getter _ _ _))

theorem readLock (version : ContractVersion) (lock : Address) :
    (version.readLock lock).Relayable := by
  apply bind (figures version lock)
  intro found
  apply bind
  · unfold ContractVersion.readToken
    split
    · exact .ask (.getter _ _ _)
    · trivial
  · intro token
    apply bind
    · unfold ContractVersion.readVersion
      split
      · exact bind (.ask ((Question.Relayable.getter _ _ _).fitting _)) fun _ => trivial
      · trivial
    · intro publicLockVersion
      exact bind (readBalance lock token) fun _ => .ofExcept _

end Relayable

end Query

end LockGateway
