import LockGateway.Abi.Value

/-! Results of contract calls. Every result here is one slot; it must be there
in full, be all there is, and hold a value of its kind. -/

namespace LockGateway.Abi

inductive Fault where
  | tooShort
  | tooLong
  | wrongKind (kind : String) (slot : List UInt8)
  deriving DecidableEq, Repr

def Fault.message : Fault → String
  | .tooShort => "ABI decoding failed: buffer overrun while deserializing"
  | .tooLong => "ABI decoding failed: reserialization did not match original"
  | .wrongKind kind slot =>
      let digits := String.ofList (Hex.encode slot)
      s!"type check failed for \"({kind})\" with data: {digits}"

/-- A kind of result: its name and the values that a slot can hold. -/
structure ResultKind (α : Type) where
  name : String
  read? : List UInt8 → Option α

namespace ResultKind

def uint256 : ResultKind Word where
  name := "uint256"
  read? slot := some (BitVec.ofNat 256 (ofBigEndian slot))

def address : ResultKind Address where
  name := "address"
  read? := readAddress?

def uint8 : ResultKind UInt8 where
  name := "uint8"
  read? slot :=
    let value := ofBigEndian slot
    if value < 256 then some (UInt8.ofNat value) else none

/-- Reads the bytes that a call returned. -/
def read (kind : ResultKind α) (bytes : List UInt8) : Except Fault α :=
  if bytes.length < slotSize then .error .tooShort
  else if bytes.length ≠ slotSize then .error .tooLong
  else match kind.read? bytes with
    | some value => .ok value
    | none => .error (.wrongKind kind.name bytes)

end ResultKind

end LockGateway.Abi
