import LockGateway.Rpc.Query
import LockGateway.Wallet

/-! The message relay in front of a remote wallet. Payloads are arbitrary JSON
values and are checked on both sides: the gateway sends none that is malformed,
and the host answers none. -/

namespace LockGateway

/-! ## Messages -/

structure RelayRequest where
  method : String
  params : List Json
  id : UInt64
  deriving Repr

structure RelayReply where
  id : UInt64
  error : Option Json
  result : Option Json
  deriving Repr

namespace RelayRequest

def members (request : RelayRequest) : List (String × Json) :=
  [("method", .string request.method), ("params", .list request.params),
   ("id", .ofUInt64 request.id)]

def toJson (request : RelayRequest) : Json := .ofMembers request.members

def methodField : Json.Field String := .required "method" Json.readText
def paramsField : Json.Field (List Json) := .required "params" Json.readList
def idField : Json.Field UInt64 := .required "id" Json.readUInt64

def ofJson (value : Json) : Except Json.Fault RelayRequest := do
  let members ← Json.openRecord "RelayRequest"
    [methodField.shape, paramsField.shape, idField.shape] value
  return { method := ← methodField.fetch members
           params := ← paramsField.fetch members
           id := ← idField.fetch members }

/-- A whole number that is not negative, written as an integer or as a
floating-point number. One that is `2 ^ 64` counts as the greatest id. -/
def id? (value : Json) : Option UInt64 :=
  match value.uint64?, value with
  | some id, _ => some id
  | none, .float number =>
      match number.toNat? with
      | some whole =>
          if whole ≤ UInt64.size then some (UInt64.ofNat (min whole (UInt64.size - 1)))
          else none
      | none => none
  | none, _ => none

/-- Reads a payload: an object with a method name, a list of parameters and an
id. -/
def ofPayload? (payload : Json) : Option RelayRequest := do
  let method ← (← payload.member? "method").string?
  if method.isEmpty then none
  let params ← (← payload.member? "params").list?
  let id ← id? (← payload.member? "id")
  return { method, params, id }

example : (ofPayload? (.object
    [("id", .ofUInt64 7), ("method", .string "eth_accounts"), ("params", .list [])])).isSome := by
  rfl

example : (ofPayload? (.object [("method", .string "eth_accounts")])).isNone := by
  rfl

end RelayRequest

namespace RelayReply

def success (id : UInt64) (result : Json) : RelayReply :=
  { id, error := none, result := some result }

def failure (id : UInt64) (message : String) : RelayReply :=
  { id, error := some (.string message), result := none }

def members (reply : RelayReply) : List (String × Json) :=
  [("id", .ofUInt64 reply.id), ("error", .ofOption reply.error),
   ("result", .ofOption reply.result)]

def toJson (reply : RelayReply) : Json := .ofMembers reply.members

def idField : Json.Field UInt64 := .required "id" Json.readUInt64
def errorField : Json.Field (Option Json) := .optional "error" Json.readAny
def resultField : Json.Field (Option Json) := .optional "result" Json.readAny

def ofJson (value : Json) : Except Json.Fault RelayReply := do
  let members ← Json.openRecord "RelayReply"
    [idField.shape, errorField.shape, resultField.shape] value
  return { id := ← idField.fetch members
           error := ← errorField.fetch members
           result := ← resultField.fetch members }

def response (reply : RelayReply) : Rpc.Response :=
  { id := some reply.id, result := reply.result, error := reply.error }

end RelayReply

/-! ## The gateway's side -/

/-- The other end of a relay. It gives no reply if the message is lost or nobody
listens. -/
abbrev RelayPeer (m : Type → Type) := (payload : Json) → m (Option RelayReply)

/-- The reply to a request, which must carry its id. -/
def RelayReply.check (expected : UInt64) (reply : Option RelayReply) :
    Except GatewayError RelayReply :=
  match reply with
  | none => .error (.transport .channelClosed)
  | some reply =>
      if reply.id = expected then .ok reply
      else .error (.transport (.idMismatch expected (some reply.id)))

def RelayPeer.call [Monad m] (peer : RelayPeer m) (payload : Json) :
    m (Except GatewayError RelayReply) :=
  match RelayRequest.ofPayload? payload with
  | none => pure (.error (.malformedRequest .malformedRelayRequest))
  | some request => do
      let reply ← peer payload
      return RelayReply.check request.id reply

namespace RelayPeer

/-- The gateway sends no request whose payload is malformed. -/
def refusal? (request : Rpc.Request) : Option GatewayError :=
  if (RelayRequest.ofPayload? request.toJson).isNone then
    some (.malformedRequest .malformedRelayRequest)
  else none

/-- The reply to a request as a response. -/
def deliver [Monad m] (peer : RelayPeer m) (request : Rpc.Request) : m Reply := do
  return (← peer.call request.toJson).map RelayReply.response

end RelayPeer

/-- Asked once by the gateway, and answered by every host. -/
def walletInfoMethod : String := "unlock_walletInfo"

/-- What the host tells of its wallet. A relay that does not reply is one with
nobody logged in. -/
def Query.walletInfo : Query WalletInfo := do
  match ← (send walletInfoMethod (.list [])).attempt with
  | .ok value =>
      ofExcept ((WalletInfo.ofJson value).mapError (.invalidResponse <| .noWalletInfo ·))
  | .error (.transport _) => return .unavailable
  | .error error => fail error

/-! ## The wallet's side -/

inductive RelayHost (m : Type → Type) where
  /-- A wallet in the page of the host. -/
  | native (wallet : Sender m) (flavor : WalletFlavor)
  /-- A hosted account; nobody is logged in if there is none. -/
  | userAccount (account : Option Address) (network : UInt64)

namespace RelayHost

def hasWallet : RelayHost m → Bool
  | native _ _ => true
  | userAccount account _ => account.isSome

def walletInfo (host : RelayHost m) : WalletInfo :=
  match host with
  | native _ flavor => .available flavor
  | userAccount (some _) _ => .available .generic
  | userAccount none _ => .unavailable

def noWallet : String := "No web3 wallet is available"

/-- A hosted account knows only itself and its network. -/
def accountReply (account : Address) (network : UInt64) (request : RelayRequest) : RelayReply :=
  if request.method = "eth_accounts" then
    .success request.id (.list [.string account.checksumText])
  else if request.method = "net_version" then
    .success request.id (.string (Numeral.text 10 network.toNat))
  else .failure request.id ("\"" ++ request.method ++ "\" is not supported")

/-- Passes on what the wallet replied. A failure of the call itself becomes an
error with its text. -/
def nativeReply (id : UInt64) (reply : Reply) : RelayReply :=
  match reply with
  | .ok response =>
      { id, error := response.errorObject?.map Rpc.ErrorObject.toJson, result := response.result }
  | .error error => .failure id error.message

def reply [Monad m] (host : RelayHost m) (request : RelayRequest) : m RelayReply :=
  if request.method = walletInfoMethod then
    pure (.success request.id host.walletInfo.toJson)
  else match host with
    | native wallet _ => do
        return nativeReply request.id (← wallet request.method (.list request.params))
    | userAccount (some account) network => pure (accountReply account network request)
    | userAccount none _ => pure (.failure request.id noWallet)

/-- Answers a payload, unless it is malformed. -/
def answer [Monad m] (host : RelayHost m) : RelayPeer m := fun payload =>
  match RelayRequest.ofPayload? payload with
  | none => pure none
  | some request => do return some (← host.reply request)

end RelayHost

end LockGateway
