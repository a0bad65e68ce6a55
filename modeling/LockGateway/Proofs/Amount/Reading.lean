import LockGateway.Error
import LockGateway.Proofs.Numeral
import LockGateway.Proofs.Outcome

/-! What an amount is read as, and which amounts are read as nothing at all. An amount
comes to nothing if no place that counts holds more than a zero, and also if so much is
asked for that the product with the power of ten goes all the way round. -/

namespace LockGateway.Amount

/-- The digits that count, and the power of ten by which they are multiplied. -/
structure ReadAs (amount : String) (decimals : Nat) (digits : List Char) (power : Nat)
    (number : Word) : Prop where
  places : decimals ≤ greatestDecimals
  unsigned : (Text.trimCharacters amount.toList).head? ≠ some '-'
  scaled : scaledDigits (Text.trimCharacters amount.toList) decimals = .ok (digits, power)
  read : Numeral.read 10 digits = .ok number

theorem toBaseUnits_ok_iff {amount : String} {decimals : Nat} {units : Word} :
    toBaseUnits amount decimals = .ok units ↔
      ∃ digits power number, ReadAs amount decimals digits power number ∧
        units = number * BitVec.ofNat 256 (Nat.pow 10 power) := by
  rw [toBaseUnits, parseUnits]
  by_cases large : greatestDecimals < decimals
  · rw [if_pos large]
    constructor
    · intro read
      cases read
    · rintro ⟨digits, power, number, readAs, _⟩
      exact absurd readAs.places (Nat.not_le.mpr large)
  · rw [if_neg large]
    change scaledDigits (Text.trimCharacters amount.toList) decimals >>= (fun scaled =>
      if (Text.trimCharacters amount.toList).head? = some '-' then
        throw (readNegative scaled.1.tail scaled.2) >>= fun _ : PUnit => _
      else (Numeral.read 10 scaled.1).mapError .malformed >>= fun number =>
        pure (number * BitVec.ofNat 256 (Nat.pow 10 scaled.2))) = .ok units ↔ _
    constructor
    · intro read
      rcases Outcome.bind_eq_ok_iff.mp read with ⟨scaled, found, read⟩
      by_cases negative : (Text.trimCharacters amount.toList).head? = some '-'
      · rw [if_pos negative] at read
        cases read
      · rw [if_neg negative] at read
        rcases Outcome.bind_eq_ok_iff.mp read with ⟨number, named, equal⟩
        cases equal
        exact ⟨scaled.1, scaled.2, number,
          ⟨Nat.le_of_not_lt large, negative, found, Outcome.mapError_eq_ok_iff.mp named⟩, rfl⟩
    · rintro ⟨digits, power, number, readAs, equal⟩
      rw [readAs.scaled, equal]
      refine (if_neg readAs.unsigned).trans ?_
      rw [readAs.read]
      rfl

theorem baseUnits_ok_iff {amount : String} {decimals : Nat} {units : Word} :
    baseUnits amount decimals = .ok units ↔
      ∃ digits power number, ReadAs amount decimals digits power number ∧
        units = number * BitVec.ofNat 256 (Nat.pow 10 power) := by
  rw [baseUnits, Outcome.mapError_eq_ok_iff, toBaseUnits_ok_iff]

/-- The product with a power of ten goes round at the width of a word. -/
theorem toNat_scaled (number : Word) (power : Nat) :
    (number * BitVec.ofNat 256 (Nat.pow 10 power)).toNat =
      number.toNat * 10 ^ power % 2 ^ 256 := by
  rw [BitVec.toNat_mul, BitVec.toNat_ofNat, Nat.mul_mod_mod]
  rfl

/-! ## Nothing -/

/-- Only zeros count, or what counts is a multiple of `2 ^ 256` base units. -/
inductive Vanishes (amount : String) (decimals : Nat) : Prop
  | zeros {digits : List Char} {power : Nat}
      (scaled : scaledDigits (Text.trimCharacters amount.toList) decimals = .ok (digits, power))
      (zeros : ∀ character ∈ digits, character = '0' ∨ character = '_')
  | goesRound {digits : List Char} {power : Nat} {number : Word}
      (scaled : scaledDigits (Text.trimCharacters amount.toList) decimals = .ok (digits, power))
      (read : Numeral.read 10 digits = .ok number) (positive : number ≠ 0)
      (multiple : 2 ^ 256 ∣ number.toNat * 10 ^ power)

theorem baseUnits_zero_iff {amount : String} {decimals : Nat} {units : Word}
    (accepted : baseUnits amount decimals = .ok units) : units = 0 ↔ Vanishes amount decimals := by
  rcases baseUnits_ok_iff.mp accepted with ⟨digits, power, number, readAs, equal⟩
  have multiple : units = 0 ↔ 2 ^ 256 ∣ number.toNat * 10 ^ power := by
    rw [equal, ← BitVec.toNat_inj, toNat_scaled, Nat.dvd_iff_mod_eq_zero]
    rfl
  rw [multiple]
  constructor
  · intro multiple
    by_cases none : number = 0
    · apply Vanishes.zeros readAs.scaled
      rw [← Numeral.read_zero_iff (Nat.zero_lt_succ 9), readAs.read, none]
    · exact .goesRound readAs.scaled readAs.read none multiple
  · intro vanishes
    cases vanishes with
    | zeros scaled zeros =>
        have read := (Numeral.read_zero_iff (Nat.zero_lt_succ 9)).mpr zeros
        rw [readAs.scaled] at scaled
        cases scaled
        rw [readAs.read] at read
        cases read
        simp
    | goesRound scaled read positive multiple =>
        rw [readAs.scaled] at scaled
        cases scaled
        rw [readAs.read] at read
        cases read
        exact multiple

end LockGateway.Amount
