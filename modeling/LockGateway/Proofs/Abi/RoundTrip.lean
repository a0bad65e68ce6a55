import LockGateway.Proofs.Abi.Slots

/-! Arguments are read back as they were written. A value behind the slots is found where its
slot says, as long as positions and lengths fit a slot. -/

namespace LockGateway.Abi

/-! ## Pieces of the data -/

theorem slice?_of_drop {data found rest : List UInt8} {position : Nat}
    (lies : data.drop position = found ++ rest) :
    slice? data position found.length = some found := by
  simp [slice?, lies]

theorem slot?_of_drop {data found rest : List UInt8} {position : Nat}
    (lies : data.drop position = found ++ rest) (full : found.length = slotSize) :
    slot? data position = some found := by
  rw [slot?, ← full]
  exact slice?_of_drop lies

theorem drop_add_of_drop {data found rest : List UInt8} {position : Nat}
    (lies : data.drop position = found ++ rest) :
    data.drop (position + found.length) = rest := by
  rw [← List.drop_drop, lies, List.drop_left]

/-- What lies in the data ends no later than it. -/
theorem add_length_le_of_drop {data found rest : List UInt8} {position : Nat}
    (lies : data.drop position = found ++ rest) (inside : 0 < found.length) :
    position + found.length ≤ data.length := by
  have lengths := congrArg List.length lies
  rw [List.length_drop, List.length_append] at lengths
  omega

theorem ofBigEndian_slot {number : Nat} (small : number < Nat.pow 2 256) :
    ofBigEndian (bigEndian slotSize number) = number := by
  rw [ofBigEndian_bigEndian]
  exact Nat.mod_eq_of_lt small

/-! ## Values -/

theorem readBytes12?_octets (octets : Octets 12) :
    readBytes12? (octets.bytes ++ List.replicate 20 0) = some octets := by
  simp [readBytes12?, Octets.ofBytes?, ← octets.length_eq]

theorem readText?_utf8 (text : String) : readText? (Text.utf8 text) = some text := by
  rw [readText?, Text.utf8, Array.toArray_toList, String.fromUTF8?, dif_pos text.isValidUTF8]
  rfl

/-- The byte string that lies with its length where the slot says. -/
theorem readBehind?_withLength {data content rest : List UInt8} {start : Nat}
    (lies : data.drop start = withLength content ++ rest) (fits : data.length < Nat.pow 2 256) :
    readBehind? data (bigEndian slotSize start) = some content := by
  have full : (bigEndian slotSize content.length).length = slotSize := length_bigEndian _ _
  have counted : data.drop start =
      bigEndian slotSize content.length ++ (padded content ++ rest) := by
    rw [lies, withLength, List.append_assoc]
  have behind : data.drop (start + slotSize) = padded content ++ rest := by
    rw [← full]
    exact drop_add_of_drop counted
  have ends := add_length_le_of_drop counted (by rw [full]; decide)
  have startSmall : start < Nat.pow 2 256 := by omega
  have lengthSmall : content.length < Nat.pow 2 256 := by
    have lengths := congrArg List.length behind
    rw [List.length_drop, List.length_append, padded, List.length_append] at lengths
    omega
  rw [padded, List.append_assoc] at behind
  rw [readBehind?, ofBigEndian_slot startSmall]
  change (slot? data start).bind (fun length =>
    slice? data (start + slotSize) (ofBigEndian length)) = some content
  rw [slot?_of_drop counted full, Option.bind_some, ofBigEndian_slot lengthSmall]
  exact slice?_of_drop behind

/-- A value in its slot is read from there. -/
theorem readValue?_inSlot {value : Value} {bytes : List UInt8} (own : value.placed = .inSlot bytes)
    (data : List UInt8) : readValue? data bytes value.kind = some value := by
  cases value with
  | uint word =>
      rw [placed_uint, Placed.inSlot.injEq] at own
      simp [← own, Value.kind, readValue?]
  | address account =>
      rw [placed_address, Placed.inSlot.injEq] at own
      simp [← own, Value.kind, readValue?, readAddress?_addressBytes]
  | bytes12 octets =>
      rw [Value.placed, Placed.inSlot.injEq] at own
      rw [← own, Value.kind, readValue?, readBytes12?_octets]
      rfl
  | bytes content => simp [Value.placed] at own
  | string content => simp [Value.placed] at own

/-- A value behind the slots is read from where its slot says. -/
theorem readValue?_behind {value : Value} {bytes : List UInt8}
    (placed : value.placed = .behind bytes) {data rest : List UInt8} {start : Nat}
    (lies : data.drop start = bytes ++ rest) (fits : data.length < Nat.pow 2 256) :
    readValue? data (bigEndian slotSize start) value.kind = some value := by
  cases value with
  | uint word => simp [Value.placed] at placed
  | address account => simp [Value.placed] at placed
  | bytes12 octets => simp [Value.placed] at placed
  | bytes content =>
      rw [Value.placed, Placed.behind.injEq] at placed
      rw [← placed] at lies
      simp [Value.kind, readValue?, readBehind?_withLength lies fits]
  | string content =>
      rw [Value.placed, Placed.behind.injEq] at placed
      rw [← placed] at lies
      simp [Value.kind, readValue?, readBehind?_withLength lies fits, readText?_utf8]

/-! ## All values -/

theorem length_layOut_slots (start : Nat) (values : List Value) :
    (layOut start values).1.length = slotSize * values.length := by
  induction values generalizing start with
  | nil => rfl
  | cons value rest induction =>
      rcases layOut_cons start value rest with ⟨own, later, full, _, equal⟩
      rw [equal, List.length_append, full, induction, List.length_cons, Nat.mul_succ, Nat.add_comm]

theorem decodeFrom_cons {data own : List UInt8} {position : Nat} {value : Value}
    {values : List Value} {kinds : List Kind} (found : slot? data position = some own)
    (read : readValue? data own value.kind = some value)
    (others : decodeFrom data (position + slotSize) kinds = some values) :
    decodeFrom data position (value.kind :: kinds) = some (value :: values) := by
  rw [decodeFrom, found, Option.bind_eq_bind, Option.bind_some, read, others]
  rfl

/-- The values are read from where their slots start, if what is behind the slots starts
where they were laid out for. -/
theorem decodeFrom_layOut {data after behind : List UInt8} {values : List Value}
    {position start : Nat} (fits : data.length < Nat.pow 2 256)
    (slots : data.drop position = (layOut start values).1 ++ after)
    (rest : data.drop start = (layOut start values).2 ++ behind) :
    decodeFrom data position (values.map Value.kind) = some values := by
  induction values generalizing position start with
  | nil => rfl
  | cons value values induction =>
      cases placed : value.placed with
      | inSlot bytes =>
          simp only [layOut, placed] at slots rest
          rw [List.append_assoc] at slots
          have full := length_inSlot placed
          have later := drop_add_of_drop slots
          rw [full] at later
          exact decodeFrom_cons (slot?_of_drop slots full) (readValue?_inSlot placed data)
            (induction later rest)
      | behind bytes =>
          simp only [layOut, placed] at slots rest
          rw [List.append_assoc] at slots rest
          have full : (bigEndian slotSize start).length = slotSize := length_bigEndian _ _
          have later := drop_add_of_drop slots
          rw [full] at later
          exact decodeFrom_cons (slot?_of_drop slots full) (readValue?_behind placed rest fits)
            (induction later (drop_add_of_drop rest))

/-- What is written is read back. -/
theorem decode_encode {values : List Value} (fits : (encode values).length < Nat.pow 2 256) :
    decode (values.map Value.kind) (encode values) = some values := by
  let laidOut := layOut (slotSize * values.length) values
  have written : encode values = laidOut.1 ++ laidOut.2 := rfl
  have behind : (encode values).drop (slotSize * values.length) = laidOut.2 ++ [] := by
    rw [written, ← length_layOut_slots (slotSize * values.length) values, List.append_nil]
    exact List.drop_left
  exact decodeFrom_layOut fits written behind

end LockGateway.Abi
