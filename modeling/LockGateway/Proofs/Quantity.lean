import LockGateway.Proofs.Numeral
import LockGateway.Proofs.Outcome
import LockGateway.Quantity

/-! Quantities that are read as what was written. Numbers of 64 bits fit a word, and one that
is written in decimal digits is read as itself, as is every word in the digits in which it is
sent. What is not read is a response that makes no sense. -/

namespace LockGateway.Quantity

theorem toNat_wordOfUInt64 (number : UInt64) :
    (BitVec.ofNat 256 number.toNat).toNat = number.toNat := by
  have fits := number.toNat_lt
  exact Nat.mod_eq_of_lt (by omega)

theorem toUInt64_wordOfUInt64 (number : UInt64) (field : String) :
    toUInt64 (BitVec.ofNat 256 number.toNat) field = .ok number := by
  have fits : number.toNat < UInt64.size := number.toNat_lt
  rw [toUInt64, toNat_wordOfUInt64, if_pos fits, UInt64.ofNat_toNat]

theorem toUInt64_ok_iff {value : Word} {field : String} {number : UInt64} :
    toUInt64 value field = .ok number ↔
      value.toNat < 2 ^ 64 ∧ number.toNat = value.toNat := by
  unfold toUInt64
  by_cases fits : value.toNat < UInt64.size
  · have kept : (UInt64.ofNat value.toNat).toNat = value.toNat := UInt64.toNat_ofNat_of_lt' fits
    rw [if_pos fits, Except.ok.injEq]
    constructor
    · rintro rfl
      exact ⟨fits, kept⟩
    · rintro ⟨_, same⟩
      rw [← UInt64.toNat_inj, kept, same]
  · rw [if_neg fits]
    constructor
    · intro read
      cases read
    · rintro ⟨small, _⟩
      exact absurd small fits

/-- Digits without a mark are decimal ones. -/
theorem radixAndDigits_unmarked {characters : List Char}
    (unmarked : ∀ character ∈ characters, character ≠ 'x' ∧ character ≠ 'X') :
    radixAndDigits characters = (10, characters) := by
  unfold radixAndDigits
  split
  · exact absurd rfl (unmarked 'x' (by simp)).1
  · exact absurd rfl (unmarked 'X' (by simp)).2
  · rfl

theorem ofText_decimal (number : UInt64) :
    ofText (Numeral.text 10 number.toNat) = .ok (BitVec.ofNat 256 number.toNat) := by
  have fits : number.toNat < 2 ^ 256 := Nat.lt_trans number.toNat_lt (by decide)
  have unmarked : ∀ character ∈ Numeral.digits 10 number.toNat,
      character ≠ 'x' ∧ character ≠ 'X' := by
    have digits : ∀ digit : Fin 10, Numeral.digitCharacter digit.val ≠ 'x' ∧
        Numeral.digitCharacter digit.val ≠ 'X' := by
      decide
    intro character member
    rcases Numeral.digits_eq_map (by decide : 1 < 10) number.toNat with
      ⟨values, equal, _, decimal, _⟩
    rw [equal] at member
    rcases List.mem_map.mp member with ⟨value, valueMember, rfl⟩
    exact digits ⟨value, decimal value valueMember⟩
  rw [ofText, Numeral.text, String.toList_ofList, radixAndDigits_unmarked unmarked]
  dsimp only
  rw [Numeral.read_digits (by decide) (by decide) fits]
  rfl

/-- The text of a quantity that fits a word is read as that quantity. -/
theorem ofText_text {value : Nat} (fits : value < 2 ^ 256) :
    ofText (text value) = .ok (BitVec.ofNat 256 value) := by
  rw [ofText, text, String.toList_ofList, radixAndDigits]
  dsimp only
  rw [Numeral.read_digits (by decide) (by decide) fits]
  rfl

theorem ofJson_text {value : Nat} (fits : value < 2 ^ 256) :
    ofJson (.string (text value)) = .ok (BitVec.ofNat 256 value) :=
  ofText_text fits

/-! ## Faults -/

theorem ofJson_error {value : Json} {error : GatewayError}
    (unread : ofJson value = .error error) : ∃ fault, error = .invalidResponse fault := by
  unfold ofJson at unread
  split at unread
  · cases unread
  · rcases Outcome.mapError_eq_error_iff.mp unread with ⟨cause, _, rfl⟩
    exact ⟨_, rfl⟩
  · cases unread
    exact ⟨_, rfl⟩

theorem toUInt64_error {value : Word} {field : String} {error : GatewayError}
    (unread : toUInt64 value field = .error error) : ∃ fault, error = .invalidResponse fault := by
  unfold toUInt64 at unread
  split at unread
  · cases unread
  · cases unread
    exact ⟨_, rfl⟩

end LockGateway.Quantity
