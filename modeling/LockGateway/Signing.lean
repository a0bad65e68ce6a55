import LockGateway.Base64
import LockGateway.Lifecycle
import LockGateway.Rpc.Query
import LockGateway.Wallet

/-! Signatures of typed data and of personal messages, made by the wallet. -/

namespace LockGateway

/-- MetaMask takes typed data only as a JSON text, and under a name of its own. -/
def typedDataRequest (flavor : WalletFlavor) (account : Address) (data : Json) :
    String × Json :=
  match flavor with
  | .metaMask =>
      ("eth_signTypedData_v3", .list [.string account.checksumText, .string data.text])
  | .generic => ("eth_signTypedData", .list [.string account.checksumText, data])

/-- It is the hash of the message that is signed. -/
def personalSignRequest (account : Address) (message : String) : String × Json :=
  let hash := Keccak.digest (Text.utf8 message)
  ("personal_sign", .list [.string hash.text, .string account.checksumText])

/-- The signature in the reply to a call that was sent. An error in the response
is the wallet's refusal. -/
def signatureOf (state : CallState) (method : String) (reply : Reply) :
    Except GatewayError String := do
  match reply with
  | .error error =>
      discard <| state.after .fail
      throw error
  | .ok response =>
      match response.errorObject?, response.result with
      | some error, _ =>
          discard <| state.after .fail
          throw (.signing error)
      | none, some (.string signature) =>
          discard <| state.after .succeed
          return Base64.text (Text.utf8 signature)
      | none, other =>
          discard <| state.after .fail
          throw (.invalidResponse (.noSignature method (.ofOption other)))

namespace Query

/-- One signing call; the signature is answered in base 64. -/
def sign (method : String) (params : Json) : Query String := do
  let state ← ofExcept (CallState.created.after .send)
  .call method params fun reply => .done (signatureOf state method reply)

def signData (flavor : WalletFlavor) (account : Address) (data : Json) : Query String :=
  let (method, params) := typedDataRequest flavor account data
  sign method params

def signPersonal (account : Address) (message : String) : Query String :=
  let (method, params) := personalSignRequest account message
  sign method params

end Query

end LockGateway
