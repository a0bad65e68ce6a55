import LockGateway.Lock.Snapshot
import LockGateway.Proofs.Rpc.ErrorObject
import LockGateway.Relay

/-! What is written on the wire and read back. Transactions, snapshots of locks and requests come
back as they were; a response comes back with the same outcome, since null in it is as good as
nothing. -/

namespace LockGateway

/-! ## States of the chain -/

theorem TransactionKind.ofJson_toJson (kind : TransactionKind) : ofJson kind.toJson = .ok kind := by
  cases kind with
  | lockCreation | keyPurchase | withdrawal | updateKeyPrice => rfl

theorem TransactionStatus.ofJson_toJson (status : TransactionStatus) :
    ofJson status.toJson = .ok status := by
  cases status with
  | submitted | pending | mined | failed => rfl

theorem Json.readOptional_ofUInt64 (number : Option UInt64) :
    readOptional readUInt64 (ofOption (number.map .ofUInt64)) = .ok number :=
  readOptional_ofOption readUInt64_ofUInt64 (fun _ => rfl) number

theorem Transaction.ofJson_toJson (transaction : Transaction) :
    ofJson transaction.toJson = .ok transaction := by
  have hash : hashField.Reads transaction.members transaction.hash :=
    .of_lookup rfl (Json.readOctets_text _)
  have sender : senderField.Reads transaction.members transaction.sender :=
    .of_lookup rfl (Json.readOctets_text _)
  have receiver : receiverField.Reads transaction.members transaction.receiver :=
    .of_lookup rfl (Json.readOctets_text _)
  have data : dataField.Reads transaction.members transaction.data :=
    .of_lookup rfl (Json.readBytes_text _)
  have kind : kindField.Reads transaction.members transaction.kind :=
    .of_lookup rfl (TransactionKind.ofJson_toJson _)
  have status : statusField.Reads transaction.members transaction.status :=
    .of_lookup rfl (TransactionStatus.ofJson_toJson _)
  have blockNumber : blockNumberField.Reads transaction.members transaction.blockNumber :=
    .of_lookup rfl (Json.readOptional_ofUInt64 _)
  refine Outcome.bind_eq_ok_iff.mpr ⟨_, Json.openRecord_ofMembers _ _
    ⟨hash.accepts, sender.accepts, receiver.accepts, data.accepts, kind.accepts,
      status.accepts, blockNumber.accepts⟩, ?_⟩
  rw [hash, sender, receiver, data, kind, status, blockNumber]
  rfl

theorem LockSnapshot.ofJson_toJson (snapshot : LockSnapshot) :
    ofJson snapshot.toJson = .ok snapshot := by
  have keyPrice : keyPriceField.Reads snapshot.members snapshot.keyPrice := .of_lookup rfl rfl
  have expirationDuration :
      expirationDurationField.Reads snapshot.members snapshot.expirationDuration :=
    .of_lookup rfl (Json.readUInt64_ofUInt64 _)
  have maxNumberOfKeys : maxNumberOfKeysField.Reads snapshot.members snapshot.maxNumberOfKeys :=
    .of_lookup rfl (Json.readInt64_ofInt64 _)
  have owner : ownerField.Reads snapshot.members snapshot.owner :=
    .of_lookup rfl (Json.readOctets_text _)
  have balance : balanceField.Reads snapshot.members snapshot.balance := .of_lookup rfl rfl
  have outstandingKeys : outstandingKeysField.Reads snapshot.members snapshot.outstandingKeys :=
    .of_lookup rfl (Json.readUInt64_ofUInt64 _)
  have currency : currencyField.Reads snapshot.members snapshot.currencyContractAddress :=
    .of_lookup rfl (Json.readOptional_ofOption Json.readOctets_text (fun _ => rfl) _)
  have version : versionField.Reads snapshot.members snapshot.publicLockVersion :=
    .of_lookup rfl (Json.readOptional_ofUInt64 _)
  have asOf : asOfField.Reads snapshot.members snapshot.asOf :=
    .of_lookup rfl (Json.readUInt64_ofUInt64 _)
  refine Outcome.bind_eq_ok_iff.mpr ⟨_, Json.openRecord_ofMembers _ _
    ⟨keyPrice.accepts, expirationDuration.accepts, maxNumberOfKeys.accepts, owner.accepts,
      balance.accepts, outstandingKeys.accepts, currency.accepts, version.accepts,
      asOf.accepts⟩, ?_⟩
  rw [keyPrice, expirationDuration, maxNumberOfKeys, owner, balance, outstandingKeys, currency,
    version, asOf]
  rfl

/-! ## Messages -/

namespace Rpc

theorem Request.ofJson_toJson (request : Request) : ofJson request.toJson = .ok request := by
  have jsonrpc : jsonrpcField.Reads request.members request.jsonrpc := .of_lookup rfl rfl
  have id : idField.Reads request.members request.id :=
    .of_lookup rfl (Json.readUInt64_ofUInt64 _)
  have method : methodField.Reads request.members request.method := .of_lookup rfl rfl
  have params : paramsField.Reads request.members request.params := .of_lookup rfl rfl
  refine Outcome.bind_eq_ok_iff.mpr ⟨_, Json.openRecord_ofMembers _ _
    ⟨jsonrpc.accepts, id.accepts, method.accepts, params.accepts⟩, ?_⟩
  rw [jsonrpc, id, method, params]
  rfl

namespace Response

/-- Null in place of the result, or of the error, is left out. -/
def normal (response : Response) : Response :=
  { response with
    result := Json.present response.result
    error := Json.present response.error }

theorem errorObject?_normal (response : Response) :
    response.normal.errorObject? = response.errorObject? := by
  rcases response with ⟨id, result, error⟩
  cases error with
  | none => rfl
  | some value =>
      cases value with
      | null | boolean | integer | float | string | list | object => rfl

theorem outcome_normal (response : Response) : response.normal.outcome = response.outcome := by
  rw [outcome, errorObject?_normal, outcome, normal, Json.ofOption_present]

theorem ofJson_toJson (response : Response) : ofJson response.toJson = .ok response.normal := by
  rcases response with ⟨id, result, error⟩
  let response : Response := { id, result, error }
  have idRead : idField.Reads response.members id := by
    cases error <;> exact .of_lookup rfl (Json.readOptional_ofUInt64 id)
  have resultRead : resultField.Reads response.members (Json.present result) := by
    rw [← Json.present_ofOption]
    cases error <;> exact .any rfl rfl rfl
  have errorRead : errorField.Reads response.members (Json.present error) := by
    cases error <;> exact .any rfl rfl rfl
  refine Outcome.bind_eq_ok_iff.mpr ⟨_, Json.openRecord_ofMembers _ _
    ⟨idRead.accepts, resultRead.accepts, errorRead.accepts⟩, ?_⟩
  rw [idRead, resultRead, errorRead]
  rfl

end Response

end Rpc

theorem RelayReply.ofJson_toJson (reply : RelayReply) : ∃ read, ofJson reply.toJson = .ok read ∧
    read.id = reply.id ∧ read.response = reply.response.normal := by
  have id : idField.Reads reply.members reply.id := .of_lookup rfl (Json.readUInt64_ofUInt64 _)
  have error : errorField.Reads reply.members (Json.present reply.error) := by
    rw [← Json.present_ofOption]
    exact .any rfl rfl rfl
  have result : resultField.Reads reply.members (Json.present reply.result) := by
    rw [← Json.present_ofOption]
    exact .any rfl rfl rfl
  refine ⟨{ id := reply.id
            error := Json.present reply.error
            result := Json.present reply.result }, ?_, rfl, rfl⟩
  refine Outcome.bind_eq_ok_iff.mpr ⟨_, Json.openRecord_ofMembers _ _
    ⟨id.accepts, error.accepts, result.accepts⟩, ?_⟩
  rw [id, error, result]
  rfl

/-- Whatever is written comes back, or means the same. -/
theorem wire_structs_survive :
    (∀ transaction : Transaction, Transaction.ofJson transaction.toJson = .ok transaction) ∧
      (∀ snapshot : LockSnapshot, LockSnapshot.ofJson snapshot.toJson = .ok snapshot) ∧
      (∀ request : Rpc.Request, Rpc.Request.ofJson request.toJson = .ok request) ∧
      (∀ error : Rpc.ErrorObject,
        Rpc.ErrorObject.ofJson error.toJson = .ok error ↔ error.data ≠ some .null) ∧
      (∀ response : Rpc.Response, ∃ read, Rpc.Response.ofJson response.toJson = .ok read ∧
        read.id = response.id ∧ read.outcome = response.outcome) ∧
      ∀ reply : RelayReply, ∃ read, RelayReply.ofJson reply.toJson = .ok read ∧
        read.id = reply.id ∧ read.response.outcome = reply.response.outcome := by
  refine ⟨Transaction.ofJson_toJson, LockSnapshot.ofJson_toJson, Rpc.Request.ofJson_toJson,
    fun _ => Rpc.ErrorObject.ofJson_toJson_iff, ?_, ?_⟩
  · intro response
    exact ⟨response.normal, response.ofJson_toJson, rfl, response.outcome_normal⟩
  · intro reply
    rcases reply.ofJson_toJson with ⟨read, written, id, same⟩
    exact ⟨read, written, id, by rw [same, Rpc.Response.outcome_normal]⟩

end LockGateway
