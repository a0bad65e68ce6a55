import LockGateway.Proofs.Connection.Sending
import LockGateway.Proofs.Json.Record
import LockGateway.Proofs.Outcome

/-! Results of exchanges over HTTP that failed. The body of such an exchange counts if it
names an error, but then the error in its envelope decides, and a null is none. So a failed
exchange has a result just if its body is the envelope of one with a null beside it in place
of an error. -/

namespace LockGateway

variable {σ : Type}

/-- The body answers the request of an id with a result, and has a null where it would name
an error. -/
structure Json.NullError (body : Json) (expected : UInt64) (result : Json) : Prop where
  null : body.member? "error" = some .null
  answers : ∃ envelope, Rpc.Response.ofJson body = .ok envelope ∧ envelope.id = some expected ∧
    result = .ofOption envelope.result

namespace Rpc.Response

/-- The error in an envelope is the one that the body names, unless that is null. -/
theorem error_eq {body error : Json} {envelope : Response}
    (named : body.member? "error" = some error) (read : ofJson body = .ok envelope) :
    envelope.error = Json.present (some error) := by
  rcases Outcome.bind_eq_ok_iff.mp read with ⟨members, opened, read⟩
  rcases Outcome.bind_eq_ok_iff.mp read with ⟨id, _, read⟩
  rcases Outcome.bind_eq_ok_iff.mp read with ⟨result, _, read⟩
  rcases Outcome.bind_eq_ok_iff.mp read with ⟨found, fetched, read⟩
  cases read
  cases body with
  | object entries =>
      rcases Outcome.bind_eq_ok_iff.mp opened with ⟨_, _, kept⟩
      have same : entries = members := Except.ok.inj kept
      have lookedUp : Json.lookup errorField.name members = some error := by
        rw [← same]
        exact named
      rw [Json.Field.fetch_any rfl rfl, lookedUp] at fetched
      exact (Except.ok.inj fetched).symm
  | _ => cases named

/-- An envelope whose body names an error has a result only if that error is null. -/
theorem outcome_ok_iff {body error result : Json} {envelope : Response}
    (named : body.member? "error" = some error) (read : ofJson body = .ok envelope) :
    envelope.outcome = .ok result ↔ error = .null ∧ result = .ofOption envelope.result := by
  have carried := error_eq named read
  rw [outcome, errorObject?, carried]
  cases error with
  | null => simp [Json.present, eq_comm]
  | _ => simp [Json.present]

end Rpc.Response

namespace HttpExchange

variable {status : Nat} {expected : UInt64} {result : Json}

theorem isSuccess_false (failed : status < 200 ∨ 299 < status) : isSuccess status = false := by
  rw [isSuccess, Bool.and_eq_false_iff, decide_eq_false_iff_not, decide_eq_false_iff_not]
  omega

/-- The reply that an envelope makes, if it is one and answers the request. -/
theorem result_ok_iff {read : Except Json.Fault Rpc.Response} :
    Reply.result (do
      let envelope ← read.mapError (.invalidResponse <| .noEnvelope ·)
      if envelope.id = some expected then return envelope
      else throw (.transport (.idMismatch expected envelope.id))) = .ok result ↔
    ∃ envelope, read = .ok envelope ∧ envelope.id = some expected ∧
      envelope.outcome = .ok result := by
  cases read with
  | error fault =>
      constructor
      · intro answered
        cases answered
      · rintro ⟨_, equal, _⟩
        cases equal
  | ok envelope =>
      change Reply.result (if envelope.id = some expected then .ok envelope else .error _) = _ ↔ _
      by_cases answers : envelope.id = some expected
      · simp [answers, Reply.result, Outcome.mapError_eq_ok_iff]
      · simp [answers, Reply.result]

theorem readEnvelope_failed_iff (failed : status < 200 ∨ 299 < status) (body : Json) :
    (readEnvelope expected status body).result = .ok result ↔ body.NullError expected result := by
  have unsuccessful := isSuccess_false failed
  cases named : body.member? "error" with
  | none =>
      have refused : readEnvelope expected status body = .error (.transport (.status status)) := by
        simp [readEnvelope, unsuccessful, named, throw, throwThe, MonadExceptOf.throw, bind,
          Except.bind]
      rw [refused]
      constructor
      · intro answered
        cases answered
      · intro nullError
        cases named.symm.trans nullError.null
  | some error =>
      have reads : readEnvelope expected status body = (do
          let envelope ← (Rpc.Response.ofJson body).mapError (.invalidResponse <| .noEnvelope ·)
          if envelope.id = some expected then return envelope
          else throw (.transport (.idMismatch expected envelope.id))) := by
        simp [readEnvelope, unsuccessful, named, bind, Except.bind, pure, Except.pure]
      rw [reads, result_ok_iff]
      constructor
      · rintro ⟨envelope, read, answers, answered⟩
        rcases (Rpc.Response.outcome_ok_iff named read).mp answered with ⟨null, equal⟩
        exact ⟨named.trans (congrArg some null), envelope, read, answers, equal⟩
      · rintro ⟨null, envelope, read, answers, equal⟩
        have isNull : error = .null := Option.some.inj (named.symm.trans null)
        exact ⟨envelope, read, answers,
          (Rpc.Response.outcome_ok_iff named read).mpr ⟨isNull, equal⟩⟩

/-- A body that is no JSON has no result either. -/
theorem reply_failed_iff (failed : status < 200 ∨ 299 < status) (text url : String) :
    ((response status text).reply url expected).result = .ok result ↔
      ∃ body, Json.parse text = some body ∧ body.NullError expected result := by
  rw [reply]
  cases parsed : Json.parse text with
  | none => simp [isSuccess_false failed, Reply.result]
  | some body => simp [readEnvelope_failed_iff failed]

end HttpExchange

/-! ## Requests that are posted -/

namespace HttpServer

variable {server : HttpServer (StateM σ)} {url : String} {location : Url}

theorem post_eq (parsed : Url.parse? url = some location) (web : location.isWeb = true)
    (request : Rpc.Request) (world : σ) :
    server.post url request world =
      ((server location request world).1.reply location.text request.id,
        (server location request world).2) := by
  rw [post, parsed]
  simp only [web, if_true]
  rfl

end HttpServer

/-- Any call can be posted. -/
theorem Backend.call_http (url : String) (server : HttpServer (StateM σ)) (schedule : Schedule)
    (method : String) (params : Json) (traffic : Traffic (StateM σ)) (world : σ) :
    let carrier := (Backend.http url server schedule).carrier
    let request := traffic.nextRequest method params
    let replied := server.post url request (carrier.arrival traffic world)
    carrier.call method params traffic world =
      ((replied.1, carrier.called traffic request), replied.2) :=
  Carrier.call_accepted _ traffic world rfl

/-- The outcome of a call over HTTP is the result in the reply to what is posted. -/
theorem Connection.send_http {connection : Connection (StateM σ)} {url : String}
    {server : HttpServer (StateM σ)} {schedule : Schedule}
    (backend : connection.backend = .http url server schedule)
    (undelivered : List (Delivery (StateM σ))) (method : String) (params : Json) (world : σ) :
    let before : Traffic (StateM σ) := .start connection.numbered undelivered
    (connection.answer undelivered (.send method params) world).1.1 =
      (server.post url (before.nextRequest method params)
        (connection.backend.carrier.arrival before world)).1.result := by
  intro before
  have called := Backend.call_http url server schedule method params before world
  change (Query.runWith connection.backend.caller (.send method params) before world).1.1 = _
  rw [Query.send, Query.runWith_call, backend]
  exact congrArg (fun ended : (Reply × Traffic (StateM σ)) × σ => ended.1.1.result) called

/-! ## Failed exchanges -/

namespace HttpServer

/-- Over an exchange that failed, a request has a result exactly if the body answers it and
has a null in place of an error; whatever else comes back is a failure. A connection to the
server sees the same. -/
theorem failed_result_iff {server : HttpServer (StateM σ)} {url text : String} {location : Url}
    {request : Rpc.Request} {world : σ} {status : Nat}
    (parsed : Url.parse? url = some location) (web : location.isWeb = true)
    (exchanged : (server location request world).1 = .response status text)
    (failed : status < 200 ∨ 299 < status) :
    (∀ result, (server.post url request world).1.result = .ok result ↔
      ∃ body, Json.parse text = some body ∧ body.NullError request.id result) ∧
    ∀ (connection : Connection (StateM σ)) undelivered method params earlier,
      let before := Traffic.start connection.numbered undelivered
      (∃ schedule, connection.backend = .http url server schedule) →
      before.nextRequest method params = request →
      connection.backend.carrier.arrival before earlier = world →
      (connection.answer undelivered (.send method params) earlier).1.1 =
        (server.post url request world).1.result := by
  constructor
  · intro result
    rw [post_eq parsed web, exchanged]
    exact HttpExchange.reply_failed_iff failed text location.text
  · rintro connection undelivered method params earlier before ⟨schedule, backend⟩ rfl rfl
    exact connection.send_http backend undelivered method params earlier

/-- The envelope of a result for the first request, with a null in place of an error. -/
def nullErrorText : String := "\x7b\"id\":1,\"error\":null,\"result\":\"0x1\"\x7d"

/-- A server whose exchanges fail with that envelope. -/
def failing : HttpServer (StateM Unit) := fun _ _ => pure (.response 500 nullErrorText)

def failingUrl : Url where
  scheme := "http"
  authority := some ("127.0.0.1", none)
  path := "/"
  query := none
  fragment := none

def failingRequest : Rpc.Request := .make 1 "eth_chainId" (.list [])

theorem failing_result_iff :
    Url.parse? "http://127.0.0.1" = some failingUrl ∧ failingUrl.isWeb = true ∧
      (failing failingUrl failingRequest ()).1 = .response 500 nullErrorText ∧
      (∀ result, (failing.post "http://127.0.0.1" failingRequest ()).1.result = .ok result ↔
        ∃ body, Json.parse nullErrorText = some body ∧ body.NullError 1 result) ∧
      ∀ (connection : Connection (StateM Unit)) undelivered method params earlier,
        let before := Traffic.start connection.numbered undelivered
        (∃ schedule, connection.backend = .http "http://127.0.0.1" failing schedule) →
        before.nextRequest method params = failingRequest →
        connection.backend.carrier.arrival before earlier = () →
        (connection.answer undelivered (.send method params) earlier).1.1 =
          (failing.post "http://127.0.0.1" failingRequest ()).1.result :=
  ⟨rfl, rfl, rfl, failed_result_iff rfl rfl rfl (.inr (by decide : 299 < 500))⟩

/-- A server that fails is taken to have answered. -/
theorem failing_has_result :
    ¬ ∀ (server : HttpServer (StateM Unit)) (location : Url) (request : Rpc.Request)
      (status : Nat) (text : String), (server location request ()).1 = .response status text →
      status < 200 ∨ 299 < status →
      ∀ url result, Url.parse? url = some location →
        (server.post url request ()).1.result ≠ .ok result := by
  intro fails
  exact fails failing failingUrl failingRequest 500 nullErrorText rfl (.inr (by decide))
    "http://127.0.0.1" (.string "0x1") rfl rfl

end HttpServer

end LockGateway
