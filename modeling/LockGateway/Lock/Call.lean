import LockGateway.Abi.Signature
import LockGateway.Error
import LockGateway.Lock.Parameters
import LockGateway.Quantity

/-! The contract calls that change locks, in the layout of each version. Calls
are only encoded here; who sends them and how they fare is not decided here. -/

namespace LockGateway

structure ContractCall where
  sender : Address
  receiver : Address
  data : List UInt8
  gas : UInt64
  value : Word
  kind : TransactionKind
  deriving DecidableEq, Repr

/-- The call as the argument of `eth_sendTransaction`. -/
def ContractCall.request (call : ContractCall) : Json :=
  .ofMembers
    [("from", .string call.sender.checksumText),
     ("to", .string call.receiver.checksumText),
     ("data", .string (Hex.text call.data)),
     ("gas", .string (Quantity.text call.gas.toNat)),
     ("value", .string (Quantity.text call.value.toNat))]

/-! ## Methods -/

namespace Method

open Abi

/-- Arguments: duration, price, key limit. -/
def createLock : Signature := ⟨"createLock", [.uint256, .uint256, .uint256]⟩

/-- Arguments: duration, token, price, key limit. -/
def createTokenLock : Signature := ⟨"createLock", [.uint256, .address, .uint256, .uint256]⟩

/-- Arguments: duration, token, price, key limit, name, salt. -/
def createNamedLock : Signature :=
  ⟨"createLock", [.uint256, .address, .uint256, .uint256, .string, .bytes12]⟩

/-- Arguments: recipient, data. -/
def purchaseWithData : Signature := ⟨"purchaseFor", [.address, .bytes]⟩

/-- Argument: recipient. -/
def purchaseFor : Signature := ⟨"purchaseFor", [.address]⟩

/-- Arguments: price, recipient, referrer, data. -/
def purchase : Signature := ⟨"purchase", [.uint256, .address, .address, .bytes]⟩

def withdraw : Signature := ⟨"withdraw", []⟩

/-- Argument: amount. -/
def partialWithdraw : Signature := ⟨"partialWithdraw", [.uint256]⟩

/-- Arguments: token, amount. -/
def withdrawToken : Signature := ⟨"withdraw", [.address, .uint256]⟩

/-- Argument: price. -/
def updateKeyPrice : Signature := ⟨"updateKeyPrice", [.uint256]⟩

/-- Arguments: price, token. -/
def updateKeyPricing : Signature := ⟨"updateKeyPricing", [.uint256, .address]⟩

end Method

/-! Limits on the gas of each operation. -/

namespace Gas

def createLock : UInt64 := 3000000
def purchaseKey : UInt64 := 300000
def withdraw : UInt64 := 1000000
def partialWithdraw : UInt64 := 1000000
def updateKeyPrice : UInt64 := 1000000

end Gas

/-! ## Salts -/

namespace LockSalt

/-- What a salt is the hash of: creator, name, and duration in eight bytes. -/
def preimage (creator : Address) (name : String) (expirationDuration : UInt64) : List UInt8 :=
  creator.bytes ++ Text.utf8 name ++ bigEndian 8 expirationDuration.toNat

def make (creator : Address) (name : String) (expirationDuration : UInt64) : Octets 12 :=
  let hash := Keccak.digest (preimage creator name expirationDuration)
  .ofPrefix 12 hash.bytes (by rw [hash.length_eq]; decide)

end LockSalt

/-! ## Operations -/

namespace ContractVersion

/-- Versions without tokens count in ether whatever places are named. -/
def decimals (version : ContractVersion) (named : UInt8) : Nat :=
  if version.supportsTokens then named.toNat else Amount.etherDecimals

/-- Versions without tokens refuse a price in a token. -/
def requireNative (version : ContractVersion) (currency : Option Address) :
    Except GatewayError Unit :=
  match currency with
  | some token =>
      if token ≠ Address.zero ∧ version.supportsTokens = false then
        .error (.validation (.tokenUnsupported version token))
      else .ok ()
  | none => .ok ()

def tokenOrNative (currency : Option Address) : Address := currency.getD Address.zero

/-- The greatest value means that there is no limit. -/
def keyLimit (limit : Option UInt64) : Word :=
  match limit with
  | some count => BitVec.ofNat 256 count.toNat
  | none => BitVec.allOnes 256

/-- The amount of a partial withdrawal, which must not be blank. -/
def requireAmount (amount : Option String) : Except GatewayError String :=
  match amount with
  | some text =>
      if (Text.trimCharacters text.toList).isEmpty then .error (.validation .blankAmount)
      else .ok text
  | none => .error (.validation .blankAmount)

def createLock (version : ContractVersion) (unlock sender : Address)
    (parameters : CreateLockParameters) : Except GatewayError ContractCall := do
  version.requireNative parameters.currency
  let price ← Amount.baseUnits parameters.keyPrice (version.decimals parameters.decimals)
  let duration : Abi.Value :=
    .uint (BitVec.ofNat 256 parameters.expirationDuration.toNat)
  let token : Abi.Value := .address (tokenOrNative parameters.currency)
  let limit : Abi.Value := .uint (keyLimit parameters.maxNumberOfKeys)
  let salt := LockSalt.make sender parameters.name parameters.expirationDuration
  let data := match version with
    | v0 | v01 => Method.createLock.call [duration, .uint price, limit]
    | v02 => Method.createTokenLock.call [duration, token, .uint price, limit]
    | v10 =>
        Method.createNamedLock.call
          [duration, token, .uint price, limit, .string parameters.name, .bytes12 salt]
  return { sender, receiver := unlock, data, gas := Gas.createLock, value := 0,
           kind := .lockCreation }

/-- The price is paid with the call if it is in the native currency. A lock
takes tokens from the owner by itself. -/
def purchaseKey (version : ContractVersion) (sender : Address)
    (parameters : PurchaseKeyParameters) : Except GatewayError ContractCall := do
  version.requireNative parameters.currency
  let price ← Amount.baseUnits parameters.keyPrice (version.decimals parameters.decimals)
  let native := tokenOrNative parameters.currency = Address.zero
  let data := match version with
    | v0 => Method.purchaseWithData.call [.address parameters.owner, .bytes parameters.data]
    | v01 | v02 => Method.purchaseFor.call [.address parameters.owner]
    | v10 =>
        Method.purchase.call
          [.uint price, .address parameters.owner,
           .address (parameters.referrer.getD Address.zero), .bytes parameters.data]
  return { sender, receiver := parameters.lock, data, gas := Gas.purchaseKey,
           value := if native then price else 0, kind := .keyPurchase }

/-- In the newest version an amount of zero is the whole balance. -/
def withdrawFromLock (version : ContractVersion) (parameters : WithdrawParameters) :
    Except GatewayError ContractCall :=
  let data := match version with
    | v0 | v01 | v02 => Method.withdraw.call []
    | v10 =>
        Method.withdrawToken.call [.address (tokenOrNative parameters.currency), .uint 0]
  .ok { sender := parameters.account, receiver := parameters.lock, data,
        gas := Gas.withdraw, value := 0, kind := .withdrawal }

def partialWithdrawFromLock (version : ContractVersion) (parameters : WithdrawParameters) :
    Except GatewayError ContractCall := do
  let text ← requireAmount parameters.amount
  let amount ← Amount.baseUnits text (version.decimals parameters.decimals)
  let data := match version with
    | v0 | v01 | v02 => Method.partialWithdraw.call [.uint amount]
    | v10 =>
        Method.withdrawToken.call
          [.address (tokenOrNative parameters.currency), .uint amount]
  return { sender := parameters.account, receiver := parameters.lock, data,
           gas := Gas.partialWithdraw, value := 0, kind := .withdrawal }

def updateKeyPrice (version : ContractVersion) (parameters : UpdateKeyPriceParameters) :
    Except GatewayError ContractCall := do
  version.requireNative parameters.currency
  let price ← Amount.baseUnits parameters.keyPrice (version.decimals parameters.decimals)
  let data := match version with
    | v0 | v01 | v02 => Method.updateKeyPrice.call [.uint price]
    | v10 =>
        Method.updateKeyPricing.call
          [.uint price, .address (tokenOrNative parameters.currency)]
  return { sender := parameters.account, receiver := parameters.lock, data,
           gas := Gas.updateKeyPrice, value := 0, kind := .updateKeyPrice }

end ContractVersion

end LockGateway
