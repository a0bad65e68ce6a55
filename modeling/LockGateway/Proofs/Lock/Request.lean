import LockGateway.Lock.Call
import LockGateway.Proofs.Address
import LockGateway.Proofs.Quantity

/-! The request in which a call is handed in, read back. Every member is read with the reader
that takes what nodes answer of its kind, and together they give the call again, so calls are
asked for in the same words only if they are the same. -/

namespace LockGateway

/-- What a request asks for. -/
structure RequestedCall where
  sender : Address
  receiver : Address
  data : List UInt8
  gas : UInt64
  value : Word
  deriving DecidableEq, Repr

namespace RequestedCall

def address? (request : Json) (name : String) : Option Address := do
  let text ← (← request.member? name).string?
  (Address.ofText text).toOption

def quantity? (request : Json) (name : String) : Option Word := do
  (Quantity.ofJson (← request.member? name)).toOption

/-- Nothing if a member is missing or cannot be read. -/
def ofRequest? (request : Json) : Option RequestedCall := do
  let sender ← address? request "from"
  let receiver ← address? request "to"
  let data ← (readHexData (← request.member? "data")).toOption
  let gas ← (Quantity.toUInt64 (← quantity? request "gas") "gas").toOption
  let value ← quantity? request "value"
  return { sender, receiver, data, gas, value }

variable {request : Json} {name : String}

theorem address?_of_member {address : Address}
    (member : request.member? name = some (.string address.checksumText)) :
    address? request name = some address := by
  rw [address?, member]
  change (Address.ofText address.checksumText).toOption = _
  rw [Address.ofText_checksumText]
  rfl

theorem quantity?_of_member {value : Nat} (fits : value < 2 ^ 256)
    (member : request.member? name = some (.string (Quantity.text value))) :
    quantity? request name = some (BitVec.ofNat 256 value) := by
  rw [quantity?, member]
  change (Quantity.ofJson (.string (Quantity.text value))).toOption = _
  rw [Quantity.ofJson_text fits]
  rfl

end RequestedCall

namespace ContractCall

/-- The fields of a call that are sent. Its kind is not. -/
def requested (call : ContractCall) : RequestedCall where
  sender := call.sender
  receiver := call.receiver
  data := call.data
  gas := call.gas
  value := call.value

theorem ofRequest?_request (call : ContractCall) :
    RequestedCall.ofRequest? call.request = some call.requested := by
  have gasFits : call.gas.toNat < 2 ^ 256 := Nat.lt_trans call.gas.toNat_lt (by decide)
  have sender : RequestedCall.address? call.request "from" = some call.sender :=
    RequestedCall.address?_of_member rfl
  have receiver : RequestedCall.address? call.request "to" = some call.receiver :=
    RequestedCall.address?_of_member rfl
  have member : call.request.member? "data" = some (.string (Hex.text call.data)) := rfl
  have gas : RequestedCall.quantity? call.request "gas" =
      some (BitVec.ofNat 256 call.gas.toNat) :=
    RequestedCall.quantity?_of_member gasFits rfl
  have value : RequestedCall.quantity? call.request "value" = some call.value := by
    rw [RequestedCall.quantity?_of_member call.value.isLt rfl, BitVec.ofNat_toNat,
      BitVec.setWidth_eq]
  rw [RequestedCall.ofRequest?, sender, receiver, member, gas, value]
  simp only [Option.bind_eq_bind, Option.bind_some,
    readHexData_carries (Json.carries_text call.data), Quantity.toUInt64_wordOfUInt64]
  rfl

theorem request_of_requested {call other : ContractCall}
    (same : call.requested = other.requested) : call.request = other.request := by
  rcases call with ⟨sender, receiver, data, gas, value, kind⟩
  rcases other with ⟨_, _, _, _, _, _⟩
  cases same
  rfl

/-- A request is read back as the call that it was made of, so two calls have the same request
just if they agree in all that is sent. -/
theorem request_read_back (call other : ContractCall) :
    RequestedCall.ofRequest? call.request = some call.requested ∧
      (call.request = other.request ↔ call.requested = other.requested) := by
  refine ⟨call.ofRequest?_request, ?_, request_of_requested⟩
  intro same
  have read := call.ofRequest?_request
  rw [same, other.ofRequest?_request] at read
  exact (Option.some.inj read).symm

end ContractCall

end LockGateway
