import LockGateway.Hex

/-! Byte strings of a fixed length: account and contract addresses, transaction
hashes, salts. -/

namespace LockGateway

structure Octets (size : Nat) where
  bytes : List UInt8
  length_eq : bytes.length = size
  deriving DecidableEq, Repr

namespace Octets

def zero (size : Nat) : Octets size :=
  ⟨List.replicate size 0, List.length_replicate⟩

def ofBytes? (size : Nat) (bytes : List UInt8) : Option (Octets size) :=
  if length_eq : bytes.length = size then some ⟨bytes, length_eq⟩ else none

/-- The first `size` of at least that many bytes. -/
def ofPrefix (size : Nat) (bytes : List UInt8) (enough : size ≤ bytes.length) :
    Octets size :=
  ⟨bytes.take size, by simp [Nat.min_eq_left enough]⟩

/-- `0x` and lower-case digits. -/
def text (octets : Octets size) : String :=
  Hex.text octets.bytes

/-- An odd length is reported before a wrong one, and that before a character
that is no digit. -/
def read (size : Nat) (characters : List Char) : Except Hex.Fault (Octets size) := do
  let digits ← Hex.body characters
  if Text.byteLength digits ≠ 2 * size then throw .wrongLength
  let bytes ← Hex.decodeFrom 0 digits
  match ofBytes? size bytes with
  | some octets => return octets
  | none => throw .wrongLength

def ofText (size : Nat) (text : String) : Except Hex.Fault (Octets size) :=
  read size text.toList

example : read 1 ['0', 'x', '7', 'f'] = .ok ⟨[0x7f], rfl⟩ := by rfl

theorem eq_of_bytes_eq {left right : Octets size} (same : left.bytes = right.bytes) :
    left = right := by
  cases left
  cases right
  cases same
  rfl

end Octets

/-! Words and fixed-length strings meet in big-endian bytes. -/

/-- The `count` lowest bytes of a value, most significant first. -/
def bigEndian : (count : Nat) → Nat → List UInt8
  | 0, _ => []
  | count + 1, value => bigEndian count (value / 256) ++ [UInt8.ofNat (value % 256)]

def ofBigEndian (bytes : List UInt8) : Nat :=
  bytes.foldl (fun value byte => value * 256 + byte.toNat) 0

example : bigEndian 3 0x1ff = [0, 1, 0xff] ∧ ofBigEndian [1, 0xff] = 0x1ff := by decide

theorem length_bigEndian (count value : Nat) : (bigEndian count value).length = count := by
  induction count generalizing value with
  | zero => rfl
  | succ count induction => simp [bigEndian, induction]

theorem ofBigEndian_append_singleton (bytes : List UInt8) (byte : UInt8) :
    ofBigEndian (bytes ++ [byte]) = ofBigEndian bytes * 256 + byte.toNat := by
  simp [ofBigEndian]

/-- Reading back keeps the value modulo the width. -/
theorem ofBigEndian_bigEndian (count value : Nat) :
    ofBigEndian (bigEndian count value) = value % Nat.pow 256 count := by
  induction count generalizing value with
  | zero => simp [bigEndian, ofBigEndian, Nat.mod_one]
  | succ count induction =>
      have low : (UInt8.ofNat (value % 256)).toNat = value % 256 := by
        simp
      have next : Nat.pow 256 (count + 1) = 256 * Nat.pow 256 count := Nat.pow_succ'
      rw [bigEndian, ofBigEndian_append_singleton, induction, low, next, Nat.mod_mul]
      omega

end LockGateway
