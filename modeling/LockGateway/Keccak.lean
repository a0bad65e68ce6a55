import LockGateway.Octets

/-! The Keccak-256 hash: a sponge over twenty-five 64-bit lanes with 136 bytes
absorbed at a time. Lane `x + 5 * y` is the one in column `x` and row `y`. -/

namespace LockGateway.Keccak

abbrev Lanes := Vector UInt64 25

def rotateLeft (lane : UInt64) (amount : Nat) : UInt64 :=
  if amount = 0 then lane
  else lane <<< UInt64.ofNat amount ||| lane >>> UInt64.ofNat (64 - amount)

/-! ## One round -/

/-- Every lane takes in the parities of two neighbouring columns. -/
def mixColumns (lanes : Lanes) : Lanes :=
  let parity : Vector UInt64 5 := .ofFn fun column =>
    lanes[column.val] ^^^ lanes[column.val + 5] ^^^ lanes[column.val + 10] ^^^
      lanes[column.val + 15] ^^^ lanes[column.val + 20]
  .ofFn fun index =>
    lanes[index] ^^^ parity[(index.val + 4) % 5] ^^^
      rotateLeft parity[(index.val + 1) % 5] 1

def rotationAmounts : Vector Nat 25 :=
  #v[0, 1, 62, 28, 27, 36, 44, 6, 55, 20, 3, 10, 43, 25, 39, 41, 45, 15, 21, 8,
     18, 2, 61, 56, 14]

/-- Lanes are rotated in place and then moved: the lane that arrives in column
`x` and row `y` comes from column `x + 3 * y` and row `x`. -/
def rotateAndMove (lanes : Lanes) : Lanes :=
  .ofFn fun index =>
    let column := index.val % 5
    let row := index.val / 5
    let source := (column + 3 * row) % 5 + 5 * column
    have inRange : source < 25 := by omega
    rotateLeft lanes[source] rotationAmounts[source]

/-- The one nonlinear step, within each row. -/
def combineRows (lanes : Lanes) : Lanes :=
  .ofFn fun index =>
    let column := index.val % 5
    let row := index.val / 5
    let next := (column + 1) % 5 + 5 * row
    let afterNext := (column + 2) % 5 + 5 * row
    have nextInRange : next < 25 := by omega
    have afterNextInRange : afterNext < 25 := by omega
    lanes[index] ^^^ (lanes[next].complement &&& lanes[afterNext])

def roundConstants : List UInt64 :=
  [0x0000000000000001, 0x0000000000008082, 0x800000000000808a, 0x8000000080008000,
   0x000000000000808b, 0x0000000080000001, 0x8000000080008081, 0x8000000000008009,
   0x000000000000008a, 0x0000000000000088, 0x0000000080008009, 0x000000008000000a,
   0x000000008000808b, 0x800000000000008b, 0x8000000000008089, 0x8000000000008003,
   0x8000000000008002, 0x8000000000000080, 0x000000000000800a, 0x800000008000000a,
   0x8000000080008081, 0x8000000000008080, 0x0000000080000001, 0x8000000080008008]

def round (lanes : Lanes) (constant : UInt64) : Lanes :=
  let combined := combineRows (rotateAndMove (mixColumns lanes))
  combined.set 0 (combined[0] ^^^ constant)

def permute (lanes : Lanes) : Lanes :=
  roundConstants.foldl round lanes

/-! ## The sponge -/

/-- The number of bytes absorbed between two permutations. -/
def rate : Nat := 136

/-- The bytes of a lane, least significant first. -/
def laneBytes (lane : UInt64) : List UInt8 :=
  (bigEndian 8 lane.toNat).reverse

def laneOfBytes (bytes : List UInt8) : UInt64 :=
  UInt64.ofNat (ofBigEndian bytes.reverse)

def absorb (lanes : Lanes) (block : List UInt8) : Lanes :=
  permute <| .ofFn fun index =>
    lanes[index] ^^^ laneOfBytes ((block.drop (8 * index.val)).take 8)

/-- Absorbs whole blocks; `count` is their number. -/
def absorbBlocks : (count : Nat) → Lanes → List UInt8 → Lanes
  | 0, lanes, _ => lanes
  | count + 1, lanes, bytes =>
      absorbBlocks count (absorb lanes (bytes.take rate)) (bytes.drop rate)

/-- The message is followed by a one bit, zeros, and a one bit that ends the
last block. -/
def pad (message : List UInt8) : List UInt8 :=
  let missing := rate - message.length % rate
  message ++
    if missing = 1 then [0x81]
    else 0x01 :: (List.replicate (missing - 2) 0 ++ [0x80])

def digest (message : List UInt8) : Octets 32 :=
  let padded := pad message
  let lanes := absorbBlocks (padded.length / rate) (.replicate 25 0) padded
  ⟨laneBytes lanes[0] ++ laneBytes lanes[1] ++ laneBytes lanes[2] ++ laneBytes lanes[3],
    by simp [laneBytes, length_bigEndian]⟩

end LockGateway.Keccak
