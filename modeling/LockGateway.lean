import LockGateway.Abi.Result
import LockGateway.Abi.Signature
import LockGateway.Abi.Value
import LockGateway.Address
import LockGateway.Amount
import LockGateway.Base64
import LockGateway.Carrier
import LockGateway.CommandLine
import LockGateway.Config
import LockGateway.Connection
import LockGateway.ContractVersion
import LockGateway.Double
import LockGateway.Error
import LockGateway.Event
import LockGateway.EventBus
import LockGateway.Gateway.Connecting
import LockGateway.Gateway.Locks
import LockGateway.Gateway.Operation
import LockGateway.Gateway.Refresh
import LockGateway.Gateway.Session
import LockGateway.Hex
import LockGateway.Http
import LockGateway.Http.Wire
import LockGateway.Json.Parser
import LockGateway.Json.Printer
import LockGateway.Json.Record
import LockGateway.Json.Value
import LockGateway.Keccak
import LockGateway.Lifecycle
import LockGateway.Lock.Call
import LockGateway.Lock.Parameters
import LockGateway.Lock.Reading
import LockGateway.Lock.Snapshot
import LockGateway.Main
import LockGateway.Numeral
import LockGateway.Octets
import LockGateway.Quantity
import LockGateway.Relay
import LockGateway.Rounds
import LockGateway.Rpc.Message
import LockGateway.Rpc.Query
import LockGateway.Signing
import LockGateway.Text.Blank
import LockGateway.Text.Quoted
import LockGateway.Text.Unprintable
import LockGateway.Text.Utf8
import LockGateway.Traffic
import LockGateway.Transaction
import LockGateway.Transaction.Tracking
import LockGateway.Url
import LockGateway.Url.Host
import LockGateway.Url.Percent
import LockGateway.VersionRegistry
import LockGateway.Wallet
import LockGateway.Proofs.Abi.RoundTrip
import LockGateway.Proofs.Abi.Slots
import LockGateway.Proofs.Address
import LockGateway.Proofs.Amount
import LockGateway.Proofs.Amount.Decimal
import LockGateway.Proofs.Amount.Number
import LockGateway.Proofs.Amount.Printing
import LockGateway.Proofs.Amount.Reading
import LockGateway.Proofs.Amount.RoundTrip
import LockGateway.Proofs.Base64
import LockGateway.Proofs.Carrier
import LockGateway.Proofs.Carrier.Course
import LockGateway.Proofs.Connection.Correlation
import LockGateway.Proofs.Connection.Fronting
import LockGateway.Proofs.Connection.Gathering
import LockGateway.Proofs.Connection.Numbering
import LockGateway.Proofs.Connection.Sending
import LockGateway.Proofs.EventBus
import LockGateway.Proofs.EventBus.Audience
import LockGateway.Proofs.EventBus.Listener
import LockGateway.Proofs.Gateway.Account
import LockGateway.Proofs.Gateway.Action
import LockGateway.Proofs.Gateway.Asking
import LockGateway.Proofs.Gateway.ChainPinning
import LockGateway.Proofs.Gateway.Composition
import LockGateway.Proofs.Gateway.Connecting
import LockGateway.Proofs.Gateway.Consistency
import LockGateway.Proofs.Gateway.Deployment
import LockGateway.Proofs.Gateway.Encoding
import LockGateway.Proofs.Gateway.Following
import LockGateway.Proofs.Gateway.HandingIn
import LockGateway.Proofs.Gateway.History
import LockGateway.Proofs.Gateway.HostedAccount
import LockGateway.Proofs.Gateway.Mirror
import LockGateway.Proofs.Gateway.Numbering
import LockGateway.Proofs.Gateway.Observing
import LockGateway.Proofs.Gateway.OneVersion
import LockGateway.Proofs.Gateway.Order
import LockGateway.Proofs.Gateway.Refusal
import LockGateway.Proofs.Gateway.RelayTransparency
import LockGateway.Proofs.Gateway.RequestIds
import LockGateway.Proofs.Gateway.Unversioned
import LockGateway.Proofs.Gateway.VersionDetection
import LockGateway.Proofs.Gateway.VersionProbe
import LockGateway.Proofs.Gateway.WalletReport
import LockGateway.Proofs.Hex
import LockGateway.Proofs.Http
import LockGateway.Proofs.Json.Order
import LockGateway.Proofs.Json.Reading
import LockGateway.Proofs.Json.Record
import LockGateway.Proofs.Json.RoundTrip
import LockGateway.Proofs.Json.Text
import LockGateway.Proofs.Lock.CallData
import LockGateway.Proofs.Lock.Creation
import LockGateway.Proofs.Lock.CutAmounts
import LockGateway.Proofs.Lock.MalformedPrices
import LockGateway.Proofs.Lock.NativeAmounts
import LockGateway.Proofs.Lock.ReadBack
import LockGateway.Proofs.Lock.Request
import LockGateway.Proofs.Lock.Salt
import LockGateway.Proofs.Lock.Tokens
import LockGateway.Proofs.Lock.Withdrawal
import LockGateway.Proofs.Numeral
import LockGateway.Proofs.Outcome
import LockGateway.Proofs.Quantity
import LockGateway.Proofs.Quantity.Denotation
import LockGateway.Proofs.Relay.Gatekeeping
import LockGateway.Proofs.Relay.HostedAccount
import LockGateway.Proofs.Relay.Native
import LockGateway.Proofs.Relay.Node
import LockGateway.Proofs.Relay.Relayable
import LockGateway.Proofs.Relay.Sitting
import LockGateway.Proofs.Relay.Twins
import LockGateway.Proofs.Relay.Validation
import LockGateway.Proofs.Rpc.Answering
import LockGateway.Proofs.Rpc.ErrorObject
import LockGateway.Proofs.Rpc.Query
import LockGateway.Proofs.Serialization
import LockGateway.Proofs.Signing
import LockGateway.Proofs.Tracking
import LockGateway.Proofs.Traffic
import LockGateway.Proofs.TypedData
