import LockGateway.Proofs.Base64
import LockGateway.Proofs.Outcome
import LockGateway.Signing

/-! How signing ends. One call is made, and its reply decides: a failed call fails as it did, an
error in the response is the wallet's refusal, and a text is the signature. The states of the call
are passed through in their order, so that none of its steps is ever illegal. -/

namespace LockGateway

variable {method : String} {response : Rpc.Response}

/-! ## Responses -/

theorem Json.ofOption_eq_string_iff {value : Option Json} {text : String} :
    ofOption value = .string text ↔ value = some (.string text) := by
  cases value with
  | none => simp [ofOption]
  | some value => simp [ofOption]

namespace Reply

/-- A response counts for its error, if it has one, and otherwise for its result. -/
theorem result_error_iff {error : GatewayError} :
    result (.ok response) = .error error ↔
      ∃ object, response.errorObject? = some object ∧ error = .transport (.rpc object) := by
  rw [result, Outcome.mapError_eq_error_iff, Rpc.Response.outcome]
  cases response.errorObject? with
  | none => simp
  | some object => simp [eq_comm]

theorem result_ok_iff {value : Json} :
    result (.ok response) = .ok value ↔
      response.errorObject? = none ∧ .ofOption response.result = value := by
  rw [result, Outcome.mapError_eq_ok_iff, Rpc.Response.outcome]
  cases response.errorObject? with
  | none => simp
  | some object => simp

end Reply

/-! ## Ends -/

/-- What becomes of a signing call with a reply. A response counts as an error, or for its result,
just as it does for any other call. -/
inductive SigningEnd (method : String) : Reply → Except GatewayError String → Prop
  | failed (error : GatewayError) : SigningEnd method (.error error) (.error error)
  | refused {response : Rpc.Response} {error : Rpc.ErrorObject}
      (refused : Reply.result (.ok response) = .error (.transport (.rpc error))) :
      SigningEnd method (.ok response) (.error (.signing error))
  | signed {response : Rpc.Response} {signature : String}
      (answered : Reply.result (.ok response) = .ok (.string signature)) :
      SigningEnd method (.ok response) (.ok (Base64.text (Text.utf8 signature)))
  | unsigned {response : Rpc.Response} {value : Json}
      (answered : Reply.result (.ok response) = .ok value) (noText : value.string? = none) :
      SigningEnd method (.ok response) (.error (.invalidResponse (.noSignature method value)))

theorem exists_signingEnd (method : String) (reply : Reply) :
    ∃ outcome, SigningEnd method reply outcome := by
  cases reply with
  | error error => exact ⟨_, .failed error⟩
  | ok response =>
      cases result : Reply.result (.ok response) with
      | error error =>
          rcases Reply.result_error_iff.mp result with ⟨object, _, rfl⟩
          exact ⟨_, .refused result⟩
      | ok value =>
          cases value with
          | string signature => exact ⟨_, .signed result⟩
          | null | boolean | integer | float | list | object => exact ⟨_, .unsigned result rfl⟩

/-- Every exit passes through its last state, which is open to a call that was sent. -/
theorem SigningEnd.signatureOf_eq {reply : Reply} {outcome : Except GatewayError String}
    (ends : SigningEnd method reply outcome) : signatureOf .sent method reply = outcome := by
  cases ends with
  | failed error => rfl
  | refused refused =>
      rcases Reply.result_error_iff.mp refused with ⟨object, found, equal⟩
      cases equal
      simp only [signatureOf, found]
      rfl
  | signed answered =>
      rcases Reply.result_ok_iff.mp answered with ⟨found, text⟩
      simp only [signatureOf, found, Json.ofOption_eq_string_iff.mp text]
      rfl
  | @unsigned response value answered noText =>
      rcases Reply.result_ok_iff.mp answered with ⟨found, rfl⟩
      cases given : response.result with
      | none =>
          simp only [signatureOf, found, given]
          rfl
      | some value =>
          cases value with
          | string text =>
              rw [given] at noText
              cases noText
          | null | boolean | integer | float | list | object =>
              simp only [signatureOf, found, given]
              rfl

theorem signatureOf_iff {reply : Reply} {outcome : Except GatewayError String} :
    signatureOf .sent method reply = outcome ↔ SigningEnd method reply outcome := by
  constructor
  · rintro rfl
    rcases exists_signingEnd method reply with ⟨outcome, ends⟩
    rw [ends.signatureOf_eq]
    exact ends
  · exact SigningEnd.signatureOf_eq

/-! ## Calls -/

/-- A query that signs with one request. -/
structure SigningCall (request : String × Json) (query : Query String) : Prop where
  /-- Whoever it is sent by, the request is made once, and its reply is all that is read. -/
  once {m : Type → Type} [Monad m] (sender : Sender m) :
    query.run sender = do
      let reply ← sender request.1 request.2
      return signatureOf .sent request.1 reply
  /-- The same request might be made for its result. -/
  sent {m : Type → Type} [Monad m] (sender : Sender m) :
    (Query.send request.1 request.2).run sender = do
      let reply ← sender request.1 request.2
      return reply.result
  ends (reply : Reply) (outcome : Except GatewayError String) :
    signatureOf .sent request.1 reply = outcome ↔ SigningEnd request.1 reply outcome
  /-- A signature in base 64 is the text that was answered, and no other. -/
  decoded (response : Rpc.Response) (signature : String) :
    signatureOf .sent request.1 (.ok response) = .ok signature →
      ∃ text, Reply.result (.ok response) = .ok (.string text) ∧
        Base64.decode signature.toList = some (Text.utf8 text)
  /-- Only the sender itself might tell of an illegal step. -/
  legal (reply : Reply) (state : CallState) (step : CallStep) :
    signatureOf .sent request.1 reply = .error (.validation (.illegalCallStep state step)) →
      reply = .error (.validation (.illegalCallStep state step))

theorem signingCall_sign (method : String) (params : Json) :
    SigningCall (method, params) (Query.sign method params) where
  once _ := rfl
  sent _ := rfl
  ends _ _ := signatureOf_iff
  decoded response signature signs := by
    cases signatureOf_iff.mp signs with
    | @signed _ text answered => exact ⟨text, answered, Base64.decode_text _⟩
  legal reply state step illegal := by
    cases signatureOf_iff.mp illegal with
    | failed error => rfl

/-- Typed data and personal messages are signed with one request each, and every reply to it is
classified. -/
theorem signing_classified (account : Address) :
    (∀ flavor data,
      SigningCall (typedDataRequest flavor account data) (Query.signData flavor account data)) ∧
      ∀ message,
        SigningCall (personalSignRequest account message) (Query.signPersonal account message) :=
  ⟨fun _ _ => signingCall_sign _ _, fun _ => signingCall_sign _ _⟩

end LockGateway
