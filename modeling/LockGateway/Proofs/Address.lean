import LockGateway.Address
import LockGateway.Proofs.Hex

/-! The checksummed text of an address is read as that address: whatever the hash says of the
case of a letter, the letter spells the same digit. -/

namespace LockGateway

namespace Hex

/-- The two characters are the same digit, in either case. -/
def Recased (character recased : Char) : Prop :=
  recased = character ∨ recased = character.toUpper

theorem Recased.digitValue? {character recased : Char} {digit : Nat}
    (either : Recased character recased) (named : Hex.digitValue? character = some digit) :
    Hex.digitValue? recased = some digit := by
  rcases either with rfl | rfl
  · exact named
  · exact digitValue?_toUpper named

theorem Spells.recased {digits recased : List Char} {bytes : List UInt8}
    (spells : Spells digits bytes) (same : List.Forall₂ Recased digits recased) :
    Spells recased bytes := by
  induction spells generalizing recased with
  | nil =>
      cases same
      exact .nil
  | byte highNamed lowNamed spells induction =>
      rcases same with _ | ⟨first, _ | ⟨second, rest⟩⟩
      exact .byte (first.digitValue? highNamed) (second.digitValue? lowNamed) (induction rest)

theorem length_encode (bytes : List UInt8) : (encode bytes).length = 2 * bytes.length := by
  induction bytes with
  | nil => rfl
  | cons byte rest induction =>
      rw [encode, List.flatMap_cons, List.length_append]
      change 2 + (encode rest).length = 2 * (rest.length + 1)
      omega

end Hex

/-- What spells the bytes of an octet string is read as it. -/
theorem Octets.read_spells {size : Nat} {digits : List Char} {octets : Octets size}
    (spells : Hex.Spells digits octets.bytes) : read size ('0' :: 'x' :: digits) = .ok octets := by
  have whole : Text.byteLength digits = 2 * size := by
    rw [Hex.byteLength_spells spells, octets.length_eq]
  have found : ofBytes? size octets.bytes = some octets := by
    rw [ofBytes?, dif_pos octets.length_eq]
  rw [read, Hex.body_spells spells]
  change (if Text.byteLength digits ≠ 2 * size then _ else _) = _
  rw [if_neg (not_not.mpr whole), Hex.decodeFrom_spells spells 0]
  dsimp only [bind, Except.bind]
  rw [found]
  rfl

namespace Address

theorem length_nibbles (bytes : List UInt8) : (nibbles bytes).length = 2 * bytes.length := by
  induction bytes with
  | nil => rfl
  | cons byte rest induction =>
      rw [nibbles, List.flatMap_cons, List.length_append]
      change 2 + (nibbles rest).length = 2 * (rest.length + 1)
      omega

/-- With a half byte for each digit, none is lost. -/
theorem recased_zipWith {digits : List Char} {halves : List Nat}
    (enough : digits.length ≤ halves.length) :
    List.Forall₂ Hex.Recased digits
      (List.zipWith (fun digit nibble => if 8 ≤ nibble then digit.toUpper else digit) digits
        halves) := by
  induction digits generalizing halves with
  | nil => exact .nil
  | cons digit rest induction =>
      cases halves with
      | nil => cases enough
      | cons half others =>
          rw [List.zipWith_cons_cons]
          refine .cons ?_ (induction (Nat.le_of_succ_le_succ enough))
          split
          · exact .inr rfl
          · exact .inl rfl

theorem spells_checksumDigits (address : Address) :
    Hex.Spells (checksumDigits (Hex.encode address.bytes)) address.bytes := by
  apply (Hex.spells_encode address.bytes).recased
  apply recased_zipWith
  rw [length_nibbles, Octets.length_eq, Hex.length_encode, address.length_eq]
  decide

theorem ofText_checksumText (address : Address) : ofText address.checksumText = .ok address := by
  rw [ofText, checksumText, Octets.ofText, String.toList_ofList]
  exact Octets.read_spells address.spells_checksumDigits

end Address

end LockGateway
