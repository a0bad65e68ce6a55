import LockGateway.Keccak

/-! Account and contract addresses. An address has two texts: the lower-case
one, and the checksummed one in which the case of each letter is a bit of the
hash of the lower-case digits. Reading takes either and checks no checksum. -/

namespace LockGateway

abbrev Address := Octets 20

namespace Address

/-- Stands for the native currency where a token is asked for. -/
def zero : Address := Octets.zero 20

def ofText (text : String) : Except Hex.Fault Address :=
  Octets.ofText 20 text

def lowerText (address : Address) : String :=
  address.text

/-- The half bytes of a byte string, high half first. -/
def nibbles (bytes : List UInt8) : List Nat :=
  bytes.flatMap fun byte => [byte.toNat / 16, byte.toNat % 16]

/-- A letter is upper case where the half byte of the hash in its place is eight
or more. -/
def checksumDigits (digits : List Char) : List Char :=
  let hash := Keccak.digest (digits.map fun digit => UInt8.ofNat digit.toNat)
  List.zipWith (fun digit nibble => if 8 ≤ nibble then digit.toUpper else digit)
    digits (nibbles hash.bytes)

def checksumText (address : Address) : String :=
  String.ofList ('0' :: 'x' :: checksumDigits (Hex.encode address.bytes))

end Address

/-- The hash under which a transaction is known. -/
abbrev Hash := Octets 32

namespace Hash

def zero : Hash := Octets.zero 32

def ofText (text : String) : Except Hex.Fault Hash :=
  Octets.ofText 32 text

end Hash

end LockGateway
