import LockGateway.Abi.Result
import LockGateway.Abi.Signature

/-! The slots of call data. Every argument has a slot, in the order of the arguments,
and a value that fits into its slot can be read from there, whatever lies beside it. -/

namespace LockGateway.Abi

/-- The slot of an address. -/
def addressBytes (account : Address) : List UInt8 := List.replicate 12 0 ++ account.bytes

@[simp] theorem placed_uint (word : Word) : (Value.uint word).placed = .inSlot (wordBytes word) :=
  rfl

@[simp] theorem placed_address (account : Address) :
    (Value.address account).placed = .inSlot (addressBytes account) :=
  rfl

@[simp] theorem length_wordBytes (word : Word) : (wordBytes word).length = slotSize :=
  length_bigEndian _ _

@[simp] theorem length_addressBytes (account : Address) :
    (addressBytes account).length = slotSize := by
  simp [addressBytes, account.length_eq, slotSize]

theorem length_inSlot {value : Value} {bytes : List UInt8} (own : value.placed = .inSlot bytes) :
    bytes.length = slotSize := by
  cases value with
  | uint word =>
      rw [placed_uint, Placed.inSlot.injEq] at own
      simp [← own]
  | address account =>
      rw [placed_address, Placed.inSlot.injEq] at own
      simp [← own]
  | bytes12 octets =>
      rw [Value.placed, Placed.inSlot.injEq] at own
      simp [← own, octets.length_eq, slotSize]
  | bytes content => simp [Value.placed] at own
  | string content => simp [Value.placed] at own

/-! ## Finding a slot -/

theorem slot?_append {bytes : List UInt8} (full : bytes.length = slotSize) (rest : List UInt8) :
    slot? (bytes ++ rest) 0 = some bytes := by
  simp [slot?, slice?, ← full]

theorem slot?_append_add (before rest : List UInt8) (position : Nat) :
    slot? (before ++ rest) (before.length + position) = slot? rest position := by
  simp [slot?, slice?, ← List.drop_drop]

/-- The first value takes one slot, which holds the value itself if it fits. -/
theorem layOut_cons (start : Nat) (value : Value) (rest : List Value) :
    ∃ own later, own.length = slotSize ∧
      (∀ bytes, value.placed = .inSlot bytes → own = bytes) ∧
      (layOut start (value :: rest)).1 = own ++ (layOut later rest).1 := by
  rw [layOut]
  cases placed : value.placed with
  | inSlot bytes =>
      refine ⟨bytes, start, length_inSlot placed, ?_, rfl⟩
      intro found equal
      cases equal
      rfl
  | behind bytes =>
      refine ⟨bigEndian slotSize start, start + bytes.length, length_bigEndian _ _, ?_, rfl⟩
      intro found equal
      cases equal

/-- A value that fits lies in the slot of its place. -/
theorem slot?_layOut {values : List Value} {index : Nat} {value : Value} {bytes : List UInt8}
    (named : values[index]? = some value) (own : value.placed = .inSlot bytes) (start : Nat)
    (behind : List UInt8) :
    slot? ((layOut start values).1 ++ behind) (slotSize * index) = some bytes := by
  induction values generalizing index start with
  | nil => cases named
  | cons first rest induction =>
      rcases layOut_cons start first rest with ⟨bytesOfFirst, later, full, fits, equal⟩
      rw [equal, List.append_assoc]
      cases index with
      | zero =>
          cases named
          rw [← fits bytes own]
          exact slot?_append full _
      | succ index =>
          rw [Nat.mul_succ, Nat.add_comm, ← full, slot?_append_add, full]
          exact induction named later

theorem slot?_encode {values : List Value} {index : Nat} {value : Value} {bytes : List UInt8}
    (named : values[index]? = some value) (own : value.placed = .inSlot bytes) :
    slot? (encode values) (slotSize * index) = some bytes :=
  slot?_layOut named own _ _

/-! ## Calls -/

theorem Signature.length_selector (signature : Signature) : signature.selector.length = 4 := by
  simp [selector, (Keccak.digest _).length_eq]

theorem Signature.length_call (signature : Signature) (arguments : List Value) :
    (signature.call arguments).length = 4 + (encode arguments).length := by
  simp [call, length_selector]

/-- The arguments of a call, behind the selector. -/
theorem Signature.drop_call (signature : Signature) (arguments : List Value) :
    (signature.call arguments).drop 4 = encode arguments := by
  rw [call, ← signature.length_selector, List.drop_left]

theorem Signature.slot?_call (signature : Signature) {arguments : List Value} (index : Nat)
    {value : Value} {bytes : List UInt8} (named : arguments[index]? = some value)
    (own : value.placed = .inSlot bytes) :
    slot? ((signature.call arguments).drop 4) (slotSize * index) = some bytes := by
  rw [drop_call]
  exact slot?_encode named own

/-! ## Reading a slot -/

@[simp] theorem ofBigEndian_wordBytes (word : Word) :
    ofBigEndian (wordBytes word) = word.toNat := by
  rw [wordBytes, ofBigEndian_bigEndian]
  exact Nat.mod_eq_of_lt word.isLt

theorem wordBytes_injective : Function.Injective wordBytes := by
  intro left right same
  apply BitVec.eq_of_toNat_eq
  rw [← ofBigEndian_wordBytes, same, ofBigEndian_wordBytes]

theorem addressBytes_injective : Function.Injective addressBytes := by
  intro left right same
  exact Octets.eq_of_bytes_eq (List.append_cancel_left same)

theorem readAddress?_addressBytes (account : Address) :
    readAddress? (addressBytes account) = some account := by
  simp [readAddress?, addressBytes, Octets.ofBytes?, account.length_eq]

namespace ResultKind

variable {α : Type} {kind : ResultKind α}

/-- A full slot is read as its kind reads it. -/
theorem read_slot {bytes : List UInt8} (full : bytes.length = slotSize) {value : α}
    (holds : kind.read? bytes = some value) : kind.read bytes = .ok value := by
  simp [read, full, holds]

theorem read_uint256 (word : Word) : uint256.read (wordBytes word) = .ok word := by
  apply read_slot (length_wordBytes word)
  simp [uint256]

theorem read_address (account : Address) : address.read (addressBytes account) = .ok account := by
  apply read_slot (length_addressBytes account)
  exact readAddress?_addressBytes account

theorem read_uint8 (value : UInt8) :
    uint8.read (wordBytes (BitVec.ofNat 256 value.toNat)) = .ok value := by
  have small : value.toNat < 256 := value.toNat_lt
  have fits : (BitVec.ofNat 256 value.toNat).toNat = value.toNat := by
    apply Nat.mod_eq_of_lt
    omega
  apply read_slot (length_wordBytes _)
  simp only [uint8, ofBigEndian_wordBytes, fits, if_pos small, UInt8.ofNat_toNat]

end ResultKind

end LockGateway.Abi
