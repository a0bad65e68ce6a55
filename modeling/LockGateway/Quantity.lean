import LockGateway.Error

/-! Values that nodes answer: byte strings and quantities. A quantity is a
hexadecimal text after `0x` or a decimal one, or a plain number from a lenient
node. -/

namespace LockGateway

def readHexData (value : Json) : Except GatewayError (List UInt8) :=
  match value.string? with
  | none => .error (.invalidResponse .notBytes)
  | some text => (Hex.decode text.toList).mapError (.invalidResponse <| .malformedBytes ·)

namespace Quantity

/-- The radix of a quantity's text and the digits after its prefix. -/
def radixAndDigits : List Char → Nat × List Char
  | '0' :: 'x' :: digits => (16, digits)
  | '0' :: 'X' :: digits => (16, digits)
  | digits => (10, digits)

def ofText (text : String) : Except GatewayError Word :=
  let (radix, digits) := radixAndDigits text.toList
  (Numeral.read radix digits).mapError (.invalidResponse <| .malformedQuantity text ·)

def ofJson (value : Json) : Except GatewayError Word :=
  match value.uint64?, value.string? with
  | some number, _ => .ok (BitVec.ofNat 256 number.toNat)
  | none, some text => ofText text
  | none, none => .error (.invalidResponse .notQuantity)

def toUInt64 (value : Word) (field : String) : Except GatewayError UInt64 :=
  if value.toNat < UInt64.size then .ok (UInt64.ofNat value.toNat)
  else .error (.invalidResponse (.exceedsUInt64 field))

/-- The text in which quantities are sent: no leading zeros. -/
def text (value : Nat) : String := String.ofList ('0' :: 'x' :: Numeral.digits 16 value)

end Quantity

end LockGateway
