import LockGateway.Proofs.Abi.RoundTrip
import LockGateway.Proofs.Gateway.Encoding

/-! What the call of an order says, read back with nothing but the declaration of the method
in the contracts. The calls that orders mean are put together here by themselves, from the
declarations and the parameters, and every call that is encoded turns out to be such a
call. -/

namespace LockGateway

open Abi

/-! ## Calls as they are meant -/

/-- A call of a method that a contract declares. -/
structure IntendedCall where
  declaration : String
  arguments : List Value
  sender : Address
  receiver : Address
  value : Word

/-- The data is that of the declared method with these arguments, and the call goes from
and to the right parties with the right value. The kinds of the arguments are those that
the declaration names. -/
structure IntendedCall.Renders (intended : IntendedCall) (call : ContractCall) : Prop where
  selector : call.data.take 4 = (Keccak.digest (Text.utf8 intended.declaration)).bytes.take 4
  declared : ∃ name, intended.declaration =
    name ++ "(" ++ ",".intercalate (intended.arguments.map (·.kind.text)) ++ ")"
  arguments : decode (intended.arguments.map Value.kind) (call.data.drop 4) =
    some intended.arguments
  sender : call.sender = intended.sender
  receiver : call.receiver = intended.receiver
  value : call.value = intended.value

namespace Order

/-- The places of an amount. The versions without tokens count in ether. -/
def places (version : ContractVersion) (named : UInt8) : Nat :=
  match version with
  | .v0 | .v01 => 18
  | .v02 | .v10 => named.toNat

/-- The amount of the order comes to so many base units. A full withdrawal names none. -/
def ComesTo (version : ContractVersion) (units : Word) : Order → Prop
  | createLock parameters =>
      Amount.toBaseUnits parameters.keyPrice (places version parameters.decimals) = .ok units
  | purchaseKey parameters =>
      Amount.toBaseUnits parameters.keyPrice (places version parameters.decimals) = .ok units
  | withdraw _ => units = 0
  | partialWithdraw parameters => ∃ amount, parameters.amount = some amount ∧
      Amount.toBaseUnits amount (places version parameters.decimals) = .ok units
  | updateKeyPrice parameters =>
      Amount.toBaseUnits parameters.keyPrice (places version parameters.decimals) = .ok units

def intendedCreation (unlock signer : Address) (version : ContractVersion) (price : Word)
    (parameters : CreateLockParameters) : IntendedCall :=
  let duration := Value.uint (BitVec.ofNat 256 parameters.expirationDuration.toNat)
  let token := Value.address (parameters.currency.getD .zero)
  let limit := Value.uint (match parameters.maxNumberOfKeys with
    | some count => BitVec.ofNat 256 count.toNat
    | none => BitVec.ofNat 256 (Nat.pow 2 256 - 1))
  let salt := LockSalt.make signer parameters.name parameters.expirationDuration
  let method : String × List Value := match version with
    | .v0 | .v01 =>
        ("createLock(uint256,uint256,uint256)", [duration, .uint price, limit])
    | .v02 =>
        ("createLock(uint256,address,uint256,uint256)", [duration, token, .uint price, limit])
    | .v10 =>
        ("createLock(uint256,address,uint256,uint256,string,bytes12)",
          [duration, token, .uint price, limit, .string parameters.name, .bytes12 salt])
  { declaration := method.1, arguments := method.2, sender := signer, receiver := unlock,
    value := 0 }

/-- Only a purchase in the native currency pays with the call. -/
def intendedPurchase (signer : Address) (version : ContractVersion) (price : Word)
    (parameters : PurchaseKeyParameters) : IntendedCall :=
  let recipient := Value.address parameters.owner
  let referrer := Value.address (parameters.referrer.getD .zero)
  let method : String × List Value := match version with
    | .v0 => ("purchaseFor(address,bytes)", [recipient, .bytes parameters.data])
    | .v01 | .v02 => ("purchaseFor(address)", [recipient])
    | .v10 =>
        ("purchase(uint256,address,address,bytes)",
          [.uint price, recipient, referrer, .bytes parameters.data])
  { declaration := method.1, arguments := method.2, sender := signer,
    receiver := parameters.lock
    value := if parameters.currency.getD .zero = .zero then price else 0 }

/-- The method of the newest version withdraws everything if the amount is zero. -/
def intendedWithdrawal (version : ContractVersion) (parameters : WithdrawParameters) :
    IntendedCall :=
  let token := Value.address (parameters.currency.getD .zero)
  let method : String × List Value := match version with
    | .v0 | .v01 | .v02 => ("withdraw()", [])
    | .v10 => ("withdraw(address,uint256)", [token, .uint 0])
  { declaration := method.1, arguments := method.2, sender := parameters.account,
    receiver := parameters.lock, value := 0 }

def intendedPartialWithdrawal (version : ContractVersion) (amount : Word)
    (parameters : WithdrawParameters) : IntendedCall :=
  let token := Value.address (parameters.currency.getD .zero)
  let method : String × List Value := match version with
    | .v0 | .v01 | .v02 => ("partialWithdraw(uint256)", [.uint amount])
    | .v10 => ("withdraw(address,uint256)", [token, .uint amount])
  { declaration := method.1, arguments := method.2, sender := parameters.account,
    receiver := parameters.lock, value := 0 }

def intendedPricing (version : ContractVersion) (price : Word)
    (parameters : UpdateKeyPriceParameters) : IntendedCall :=
  let token := Value.address (parameters.currency.getD .zero)
  let method : String × List Value := match version with
    | .v0 | .v01 | .v02 => ("updateKeyPrice(uint256)", [.uint price])
    | .v10 => ("updateKeyPricing(uint256,address)", [.uint price, token])
  { declaration := method.1, arguments := method.2, sender := parameters.account,
    receiver := parameters.lock, value := 0 }

/-- The call that an order means, with its amount in base units. -/
def intended (unlock signer : Address) (version : ContractVersion) (units : Word) :
    Order → IntendedCall
  | createLock parameters => intendedCreation unlock signer version units parameters
  | purchaseKey parameters => intendedPurchase signer version units parameters
  | withdraw parameters => intendedWithdrawal version parameters
  | partialWithdraw parameters => intendedPartialWithdrawal version units parameters
  | updateKeyPrice parameters => intendedPricing version units parameters

end Order

/-! ## Calls as they are encoded -/

theorem IntendedCall.Renders.of_signature {intended : IntendedCall} {call : ContractCall}
    (signature : Signature) (data : call.data = signature.call intended.arguments)
    (declared : signature.text = intended.declaration)
    (kinds : signature.inputs = intended.arguments.map Value.kind)
    (fits : call.data.length < Nat.pow 2 256) (sender : call.sender = intended.sender)
    (receiver : call.receiver = intended.receiver) (value : call.value = intended.value) :
    intended.Renders call where
  selector := by
    rw [← declared, data, Signature.call, List.take_left' signature.length_selector]
    rfl
  declared := by
    refine ⟨signature.name, ?_⟩
    rw [← declared, Signature.text, kinds, List.map_map]
    rfl
  arguments := by
    rw [data, signature.drop_call]
    rw [data, signature.length_call] at fits
    exact decode_encode (by omega)
  sender := sender
  receiver := receiver
  value := value

namespace Order

variable {unlock signer : Address} {version : ContractVersion} {call : ContractCall}

theorem toBaseUnits_places {amount : String} {named : UInt8} {units : Word}
    (read : Amount.baseUnits amount (version.decimals named) = .ok units) :
    Amount.toBaseUnits amount (places version named) = .ok units := by
  have same : version.decimals named = places version named := by
    cases version <;> rfl
  rw [← same]
  exact Outcome.mapError_eq_ok_iff.mp read

/-- A key of the newest version, with some data beside it. -/
def gift : PurchaseKeyParameters :=
  { lock := .zero, owner := .zero, keyPrice := "1.5", data := [1, 2, 3], referrer := none,
    currency := none, decimals := 2 }

def giftCall : ContractCall where
  sender := .zero
  receiver := .zero
  data := Method.purchase.call
    [.uint 150, .address .zero, .address .zero, .bytes [1, 2, 3]]
  gas := Gas.purchaseKey
  value := 150
  kind := .keyPurchase

/-- Every call that an order is encoded as is the one that the order means. Positions and
lengths are written into slots, so the data must not be longer than a slot can tell; nothing
that fits a memory is. -/
theorem encoded_as_intended {order : Order}
    (encoded : order.encode unlock signer version = .ok call)
    (fits : call.data.length < Nat.pow 2 256) :
    ∃ units, order.ComesTo version units ∧
      (order.intended unlock signer version units).Renders call := by
  cases order with
  | createLock parameters =>
      rcases built_ok encoded with ⟨_, price, _, read, equal⟩
      refine ⟨price, toBaseUnits_places read, ?_⟩
      subst equal
      cases version with
      | v0 | v01 => exact .of_signature Method.createLock rfl rfl rfl fits rfl rfl rfl
      | v02 => exact .of_signature Method.createTokenLock rfl rfl rfl fits rfl rfl rfl
      | v10 => exact .of_signature Method.createNamedLock rfl rfl rfl fits rfl rfl rfl
  | purchaseKey parameters =>
      rcases built_ok encoded with ⟨_, price, _, read, equal⟩
      refine ⟨price, toBaseUnits_places read, ?_⟩
      subst equal
      cases version with
      | v0 => exact .of_signature Method.purchaseWithData rfl rfl rfl fits rfl rfl rfl
      | v01 | v02 => exact .of_signature Method.purchaseFor rfl rfl rfl fits rfl rfl rfl
      | v10 => exact .of_signature Method.purchase rfl rfl rfl fits rfl rfl rfl
  | withdraw parameters =>
      refine ⟨0, rfl, ?_⟩
      cases encoded
      cases version with
      | v0 | v01 | v02 => exact .of_signature Method.withdraw rfl rfl rfl fits rfl rfl rfl
      | v10 => exact .of_signature Method.withdrawToken rfl rfl rfl fits rfl rfl rfl
  | partialWithdraw parameters =>
      rcases built_ok encoded with ⟨amount, units, required, read, equal⟩
      refine ⟨units, ⟨amount, amount_of_requireAmount required, toBaseUnits_places read⟩, ?_⟩
      subst equal
      cases version with
      | v0 | v01 | v02 => exact .of_signature Method.partialWithdraw rfl rfl rfl fits rfl rfl rfl
      | v10 => exact .of_signature Method.withdrawToken rfl rfl rfl fits rfl rfl rfl
  | updateKeyPrice parameters =>
      rcases built_ok encoded with ⟨_, price, _, read, equal⟩
      refine ⟨price, toBaseUnits_places read, ?_⟩
      subst equal
      cases version with
      | v0 | v01 | v02 => exact .of_signature Method.updateKeyPrice rfl rfl rfl fits rfl rfl rfl
      | v10 => exact .of_signature Method.updateKeyPricing rfl rfl rfl fits rfl rfl rfl

theorem gift_as_intended :
    (purchaseKey gift).encode .zero .zero .v10 = .ok giftCall ∧
      giftCall.data.length < Nat.pow 2 256 ∧
      ∃ units, (purchaseKey gift).ComesTo .v10 units ∧
        ((purchaseKey gift).intended .zero .zero .v10 units).Renders giftCall := by
  have encoded : (purchaseKey gift).encode .zero .zero .v10 = .ok giftCall := rfl
  have fits : giftCall.data.length < Nat.pow 2 256 := by
    rw [giftCall, Signature.length_call]
    decide +kernel
  exact ⟨encoded, fits, encoded_as_intended encoded fits⟩

end Order

end LockGateway
