import LockGateway.Abi.Result
import LockGateway.Amount
import LockGateway.ContractVersion
import LockGateway.Rpc.Message
import LockGateway.Transaction

/-! Everything that can go wrong, by cause. The wording is in the `message`
functions. A cause that is only known by the words of somebody else, such as the
host of a wallet, is `reported`. -/

namespace LockGateway

/-! ## Steps of life cycles

The states themselves are in the error because an illegal step names them. -/

/-- What happens to a transaction that was handed in. -/
inductive TransactionStep where
  /-- A node reports the transaction in its pool. -/
  | broadcast
  /-- A receipt tells of success. -/
  | mine
  /-- A receipt tells of failure. -/
  | fail
  deriving DecidableEq, Repr

def TransactionStep.name : TransactionStep → String
  | broadcast => "Broadcast"
  | mine => "Mine"
  | fail => "Fail"

/-- The life of one call to a wallet. -/
inductive CallState where
  | created
  | sent
  | succeeded
  | failed
  deriving DecidableEq, Repr

def CallState.name : CallState → String
  | created => "Created"
  | sent => "Sent"
  | succeeded => "Succeeded"
  | failed => "Failed"

inductive CallStep where
  | send
  | succeed
  | fail
  deriving DecidableEq, Repr

def CallStep.name : CallStep → String
  | send => "Send"
  | succeed => "Succeed"
  | fail => "Fail"

/-- A status as an illegal step names it. -/
def TransactionStatus.capitalName : TransactionStatus → String
  | submitted => "Submitted"
  | pending => "Pending"
  | mined => "Mined"
  | failed => "Failed"

/-! ## Transport -/

inductive NetworkFault where
  | reported (text : String)
  /-- Requests cannot be posted to the URL; there is no text if it is none. -/
  | unusable (url : Option String)
  /-- No response came from the endpoint. -/
  | unreachable (url : String)
  /-- A response came whose body is not JSON. -/
  | unreadableBody
  deriving DecidableEq, Repr

def NetworkFault.message : NetworkFault → String
  | reported text => text
  | unusable none => "builder error"
  | unusable (some url) => s!"builder error for url ({url})"
  | unreachable url => s!"error sending request for url ({url})"
  | unreadableBody => "error decoding response body"

inductive TransportFault where
  | rpc (error : Rpc.ErrorObject)
  | network (cause : NetworkFault)
  | status (code : Nat)
  | channelClosed
  | idMismatch (expected : UInt64) (actual : Option UInt64)
  deriving Repr

def TransportFault.message : TransportFault → String
  | rpc error => s!"rpc error: {error.text}"
  | network cause => s!"network failure: {cause.message}"
  | status code => s!"http status {Numeral.text 10 code}"
  | channelClosed => "relay channel closed"
  | idMismatch expected actual =>
      let received := match actual with
        | some id => s!"Some({Numeral.text 10 id.toNat})"
        | none => "None"
      s!"response id mismatch: expected {Numeral.text 10 expected.toNat}, got {received}"

/-! ## Responses that make no sense -/

inductive ResponseFault where
  | reported (text : String)
  | notBytes
  | malformedBytes (cause : Hex.Fault)
  | notQuantity
  | malformedQuantity (text : String) (cause : Numeral.Fault)
  | exceedsUInt64 (field : String)
  | exceedsInt64 (field : String)
  | undecodable (signature : String) (cause : Abi.Fault)
  | unprintableAmount (cause : Amount.Fault)
  | noHash
  | emptyHash
  | malformedHash (text : String) (cause : Hex.Fault)
  | malformedAccount (text : String) (cause : Hex.Fault)
  | noEnvelope (cause : Json.Fault)
  | noWalletInfo (cause : Json.Fault)
  | noSignature (method : String) (result : Json)
  deriving Repr

def ResponseFault.message : ResponseFault → String
  | reported text => text
  | notBytes => "expected hex data string"
  | malformedBytes cause => s!"invalid hex data: {cause.message}"
  | notQuantity => "expected quantity string"
  | malformedQuantity text cause => s!"invalid quantity '{text}': {cause.message}"
  | exceedsUInt64 field => s!"{field} does not fit in u64"
  | exceedsInt64 field => s!"{field} does not fit in i64"
  | undecodable signature cause => s!"cannot decode {signature} result: {cause.message}"
  | unprintableAmount cause => s!"cannot format amount: {cause.message}"
  | noHash => "eth_sendTransaction returned no hash"
  | emptyHash => "provider returned an empty transaction hash"
  | malformedHash text cause => s!"invalid transaction hash '{text}': {cause.message}"
  | malformedAccount text cause => s!"invalid account '{text}': {cause.message}"
  | noEnvelope cause => s!"rpc response is not a json-rpc envelope: {cause.message}"
  | noWalletInfo cause => s!"relay wallet info: {cause.message}"
  | noSignature method result => s!"{method} returned a non-string result: {result.text}"

/-! ## Requests that are refused -/

inductive ValidationFault where
  | reported (text : String)
  | negativeAmount (amount : String)
  | malformedAmount (amount : String) (cause : Amount.Fault)
  | blankAmount
  | tokenUnsupported (version : ContractVersion) (token : Address)
  | noContract (address : Address)
  | noAccount
  | wrongNetwork (network required : UInt64)
  | illegalTransactionStep (status : TransactionStatus) (step : TransactionStep)
  | illegalCallStep (state : CallState) (step : CallStep)
  deriving DecidableEq, Repr

def ValidationFault.message : ValidationFault → String
  | reported text => text
  | negativeAmount amount => s!"amount must not be negative: {amount}"
  | malformedAmount amount cause => s!"invalid amount '{amount}': {cause.message}"
  | blankAmount => "partial withdrawal needs an amount"
  | tokenUnsupported version token =>
      s!"{version.tag} locks cannot be priced in ERC-20 token {token.checksumText}"
  | noContract address => s!"no contract deployed at {address.checksumText}"
  | noAccount => "no account loaded; call get_account first"
  | wrongNetwork network required =>
      let connected := Numeral.text 10 network.toNat
      s!"connected to network {connected}, expected {Numeral.text 10 required.toNat}"
  | illegalTransactionStep status step =>
      s!"illegal tx transition: {status.capitalName} via {step.name}"
  | illegalCallStep state step => s!"illegal call transition: {state.name} via {step.name}"

inductive RequestFault where
  | reported (text : String)
  | malformedRelayRequest
  deriving DecidableEq, Repr

def RequestFault.message : RequestFault → String
  | reported text => text
  | malformedRelayRequest =>
      "relay request needs a method name, list params and an integer id"

inductive ConfigurationFault where
  | reported (text : String)
  | noProviderUrl
  deriving DecidableEq, Repr

def ConfigurationFault.message : ConfigurationFault → String
  | reported text => text
  | noProviderUrl => "UNLOCK_PROVIDER_URL not configured in production runtime profile"

/-! ## The error of an operation -/

inductive GatewayError where
  | unsupportedVersion (version : UnsupportedVersion)
  | malformedRequest (cause : RequestFault)
  | transport (cause : TransportFault)
  | signing (error : Rpc.ErrorObject)
  | noWalletAvailable
  | notConnected
  | invalidResponse (cause : ResponseFault)
  | validation (cause : ValidationFault)
  | configuration (cause : ConfigurationFault)
  /-- The operation was broken off where it has no answer to give. There is nothing after
  it any more. -/
  | aborted
  deriving Repr

namespace GatewayError

def message : GatewayError → String
  | unsupportedVersion version => s!"unsupported contract version: {version.text}"
  | malformedRequest cause => s!"malformed request: {cause.message}"
  | transport cause => cause.message
  | signing error => s!"wallet refused to sign: {error.text}"
  | noWalletAvailable => "no wallet available"
  | notConnected => "provider not connected"
  | invalidResponse cause => s!"invalid response: {cause.message}"
  | validation cause => s!"validation error: {cause.message}"
  | configuration cause => s!"configuration error: {cause.message}"
  | aborted => "operation aborted"

/-- A fault in an amount that somebody asked for. -/
def ofAmount (amount : String) : Amount.Fault → GatewayError
  | .negative => .validation (.negativeAmount amount)
  | .splitCharacter => .aborted
  | cause => .validation (.malformedAmount amount cause)

end GatewayError

/-- Base units of an amount that somebody asked for. -/
def Amount.baseUnits (amount : String) (decimals : Nat) : Except GatewayError Word :=
  (Amount.toBaseUnits amount decimals).mapError (.ofAmount amount)

/-- The text of an amount that a contract reports. -/
def Amount.reportedUnits (value : Word) (decimals : Nat) : Except GatewayError String :=
  (Amount.ofBaseUnits value decimals).mapError (.invalidResponse <| .unprintableAmount ·)

end LockGateway
