import LockGateway.Address

/-! Contract call arguments and their layout in 32-byte slots. A value of fixed
size lies in its own slot. A byte string or text lies behind all the slots, its
length before it, and its slot holds the position where it starts. -/

namespace LockGateway.Abi

inductive Kind where
  | uint256
  | address
  | bytes12
  | bytes
  | string
  deriving DecidableEq, Repr

def Kind.text : Kind → String
  | .uint256 => "uint256"
  | .address => "address"
  | .bytes12 => "bytes12"
  | .bytes => "bytes"
  | .string => "string"

inductive Value where
  | uint (word : Word)
  | address (account : Address)
  | bytes12 (octets : Octets 12)
  | bytes (content : List UInt8)
  | string (content : String)
  deriving DecidableEq, Repr

def Value.kind : Value → Kind
  | .uint _ => .uint256
  | .address _ => .address
  | .bytes12 _ => .bytes12
  | .bytes _ => .bytes
  | .string _ => .string

/-! ## Writing -/

def slotSize : Nat := 32

def wordBytes (word : Word) : List UInt8 := bigEndian slotSize word.toNat

/-- Zeros up to the next full slot. -/
def padded (bytes : List UInt8) : List UInt8 :=
  bytes ++ List.replicate ((slotSize - bytes.length % slotSize) % slotSize) 0

def withLength (bytes : List UInt8) : List UInt8 :=
  bigEndian slotSize bytes.length ++ padded bytes

/-- What a value puts into its own slot, or behind all slots. -/
inductive Placed where
  | inSlot (bytes : List UInt8)
  | behind (bytes : List UInt8)

def Value.placed : Value → Placed
  | .uint word => .inSlot (wordBytes word)
  | .address account => .inSlot (List.replicate 12 0 ++ account.bytes)
  | .bytes12 octets => .inSlot (octets.bytes ++ List.replicate 20 0)
  | .bytes content => .behind (withLength content)
  | .string content => .behind (withLength (Text.utf8 content))

/-- The slots and the bytes behind them; `start` is where the latter begin. -/
def layOut : (start : Nat) → List Value → List UInt8 × List UInt8
  | _, [] => ([], [])
  | start, value :: rest =>
      match value.placed with
      | .inSlot bytes =>
          let (slots, behind) := layOut start rest
          (bytes ++ slots, behind)
      | .behind bytes =>
          let (slots, behind) := layOut (start + bytes.length) rest
          (bigEndian slotSize start ++ slots, bytes ++ behind)

def encode (values : List Value) : List UInt8 :=
  let (slots, behind) := layOut (slotSize * values.length) values
  slots ++ behind

/-! ## Reading -/

/-- `count` bytes from `position` on, if the data has so many. -/
def slice? (data : List UInt8) (position count : Nat) : Option (List UInt8) :=
  let bytes := (data.drop position).take count
  if bytes.length = count then some bytes else none

def slot? (data : List UInt8) (position : Nat) : Option (List UInt8) :=
  slice? data position slotSize

def readAddress? (slot : List UInt8) : Option Address :=
  if (slot.take 12).all (· = 0) then Octets.ofBytes? 20 (slot.drop 12) else none

def readBytes12? (slot : List UInt8) : Option (Octets 12) :=
  if (slot.drop 12).all (· = 0) then Octets.ofBytes? 12 (slot.take 12) else none

/-- The byte string whose position stands in a slot. -/
def readBehind? (data slot : List UInt8) : Option (List UInt8) := do
  let position := ofBigEndian slot
  let length ← slot? data position
  slice? data (position + slotSize) (ofBigEndian length)

def readText? (bytes : List UInt8) : Option String :=
  String.fromUTF8? ⟨bytes.toArray⟩

def readValue? (data slot : List UInt8) : Kind → Option Value
  | .uint256 => some (.uint (BitVec.ofNat 256 (ofBigEndian slot)))
  | .address => (readAddress? slot).map .address
  | .bytes12 => (readBytes12? slot).map .bytes12
  | .bytes => (readBehind? data slot).map .bytes
  | .string => ((readBehind? data slot).bind readText?).map .string

/-- Reads the values whose slots start at `position`. -/
def decodeFrom (data : List UInt8) : (position : Nat) → List Kind → Option (List Value)
  | _, [] => some []
  | position, kind :: rest => do
      let slot ← slot? data position
      let value ← readValue? data slot kind
      return value :: (← decodeFrom data (position + slotSize) rest)

def decode (kinds : List Kind) (data : List UInt8) : Option (List Value) :=
  decodeFrom data 0 kinds

example : encode [.uint 7, .bytes [1, 2]] =
    bigEndian 32 7 ++ bigEndian 32 64 ++ bigEndian 32 2 ++
      ([1, 2] ++ List.replicate 30 0) := by rfl

example : decode [.uint256, .bytes] (encode [.uint 7, .bytes [1, 2]]) =
    some [.uint 7, .bytes [1, 2]] := by decide +kernel

end LockGateway.Abi
