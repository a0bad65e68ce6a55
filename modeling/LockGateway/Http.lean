import LockGateway.Json.Parser
import LockGateway.Rpc.Query
import LockGateway.Url

/-! JSON-RPC over HTTP: how a request and what came back for it make a reply. -/

namespace LockGateway

/-- What came back for a posted request. -/
inductive HttpExchange where
  | unreachable
  | response (status : Nat) (body : String)
  deriving DecidableEq, Repr

namespace HttpExchange

def isSuccess (status : Nat) : Bool := 200 ≤ status && status < 300

/-- The envelope in a body that is JSON. Nodes report errors of their own under
other states than success too; then the body must name an error. -/
def readEnvelope (expected : UInt64) (status : Nat) (body : Json) : Reply := do
  if isSuccess status = false ∧ (body.member? "error").isNone then
    throw (.transport (.status status))
  let envelope ← (Rpc.Response.ofJson body).mapError (.invalidResponse <| .noEnvelope ·)
  if envelope.id = some expected then return envelope
  else throw (.transport (.idMismatch expected envelope.id))

/-- The reply to the request with the expected id. -/
def reply (exchange : HttpExchange) (url : String) (expected : UInt64) : Reply :=
  match exchange with
  | unreachable => .error (.transport (.network (.unreachable url)))
  | response status text =>
      match Json.parse text with
      | some body => readEnvelope expected status body
      | none =>
          if isSuccess status then .error (.transport (.network .unreadableBody))
          else .error (.transport (.status status))

example : reply (.response 502 "down") "" 1 = .error (.transport (.status 502)) := by rfl

example : reply unreachable "http://node" 1 =
    .error (.transport (.network (.unreachable "http://node"))) := by
  rfl

end HttpExchange

/-- Something that exchanges posted requests for responses. -/
abbrev HttpServer (m : Type → Type) := (url : Url) → Rpc.Request → m HttpExchange

/-- Posts a request. Only URLs of the web can be posted to. -/
def HttpServer.post [Monad m] (server : HttpServer m) (url : String) (request : Rpc.Request) :
    m Reply :=
  let refused (text : Option String) : m Reply :=
    pure (.error (.transport (.network (.unusable text))))
  match Url.parse? url with
  | none => refused none
  | some url =>
      if url.isWeb then do return (← server url request).reply url.text request.id
      else refused (some url.text)

end LockGateway
