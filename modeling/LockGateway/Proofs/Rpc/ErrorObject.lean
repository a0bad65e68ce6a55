import LockGateway.Rpc.Message
import LockGateway.Proofs.Json.Record
import LockGateway.Proofs.Outcome

/-! Error values of any shape, put in the form of an error object. What has that form
already stays as it is. -/

namespace LockGateway.Rpc.ErrorObject

/-- Null in place of the data is no data. -/
theorem ofValue_data_ne_null (value : Json) : (ofValue value).data ≠ some .null := by
  unfold ofValue
  cases read : ofJson value with
  | error fault =>
      intro null
      cases null
  | ok error =>
      rcases Outcome.bind_eq_ok_iff.mp read with ⟨members, _, read⟩
      rcases Outcome.bind_eq_ok_iff.mp read with ⟨code, _, read⟩
      rcases Outcome.bind_eq_ok_iff.mp read with ⟨message, _, read⟩
      rcases Outcome.bind_eq_ok_iff.mp read with ⟨data, fetched, read⟩
      cases read
      rw [Json.Field.fetch_any rfl rfl] at fetched
      cases fetched
      exact Json.present_ne_null _

theorem ofJson_toJson (error : ErrorObject) :
    ofJson error.toJson = .ok { error with data := Json.present error.data } := by
  rcases error with ⟨code, message, data⟩
  let error : ErrorObject := { code, message, data }
  have codeRead : codeField.Reads error.members code := by
    cases data <;> exact .of_lookup rfl (Json.readInt64_ofInt64 code)
  have messageRead : messageField.Reads error.members message := by
    cases data <;> exact .of_lookup rfl rfl
  have dataRead : dataField.Reads error.members (Json.present data) := by
    cases data <;> exact .any rfl rfl rfl
  refine Outcome.bind_eq_ok_iff.mpr ⟨_, Json.openRecord_ofMembers _ _
    ⟨codeRead.accepts, messageRead.accepts, dataRead.accepts⟩, ?_⟩
  rw [codeRead, messageRead, dataRead]
  rfl

/-- Data that is null is the one thing that is lost. -/
theorem ofJson_toJson_iff {error : ErrorObject} :
    ofJson error.toJson = .ok error ↔ error.data ≠ some .null := by
  rw [ofJson_toJson, ← Json.present_eq_self_iff]
  constructor
  · intro same
    exact congrArg data (Except.ok.inj same)
  · intro same
    rw [same]

/-- A value that was put in the form of an error object once is not changed any more. -/
theorem ofValue_toJson (value : Json) : ofValue (ofValue value).toJson = ofValue value := by
  rw [ofValue, ofJson_toJson, Json.present_eq_self_iff.mpr (ofValue_data_ne_null value)]

end LockGateway.Rpc.ErrorObject
