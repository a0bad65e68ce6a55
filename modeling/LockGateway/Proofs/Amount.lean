import LockGateway.Error
import LockGateway.Proofs.Outcome

/-! Amounts whose fraction is cut inside a character. The conversion has no answer
for these, and stops whoever asked for it. -/

namespace LockGateway

/-- No whole number of characters takes exactly so many bytes, although the text is
longer than that. -/
def Text.BreaksAt (count : Nat) (characters : List Char) : Prop :=
  count < byteLength characters ∧
    ∀ kept rest, characters = kept ++ rest → byteLength kept ≠ count

theorem Text.takeBytes_eq_none_iff {count : Nat} {characters : List Char} :
    takeBytes count characters = none ↔ BreaksAt count characters := by
  induction characters generalizing count with
  | nil => simp [takeBytes, BreaksAt, byteLength]
  | cons character rest induction =>
      rw [takeBytes]
      by_cases start : count = 0
      · rw [if_pos start]
        constructor
        · intro none
          cases none
        · intro breaks
          exact absurd start.symm (breaks.2 [] (character :: rest) rfl)
      · rw [if_neg start]
        by_cases inside : count < character.utf8Size
        · rw [if_pos inside]
          constructor
          · intro _
            refine ⟨Nat.lt_of_lt_of_le inside (Nat.le_add_right _ _), ?_⟩
            intro kept later equal
            cases kept with
            | nil => exact fun none => start none.symm
            | cons first more =>
                rw [List.cons_append, List.cons.injEq] at equal
                rw [← equal.1, byteLength]
                omega
          · intro _
            rfl
        · rw [if_neg inside, Option.map_eq_none_iff, induction]
          constructor
          · intro breaks
            refine ⟨?_, ?_⟩
            · have shorter := breaks.1
              rw [byteLength]
              omega
            · intro kept later equal
              cases kept with
              | nil => exact fun none => start none.symm
              | cons first more =>
                  rw [List.cons_append, List.cons.injEq] at equal
                  have different := breaks.2 more later equal.2
                  rw [← equal.1, byteLength]
                  omega
          · intro breaks
            refine ⟨?_, ?_⟩
            · have longer := breaks.1
              rw [byteLength] at longer
              omega
            · intro kept later equal
              have different := breaks.2 (character :: kept) later (by rw [equal]; rfl)
              rw [byteLength] at different
              omega

namespace Amount

/-- The places of a currency end inside a character of the amount's fraction. -/
def Splits (amount : String) (decimals : Nat) : Prop :=
  decimals ≤ greatestDecimals ∧
    ∃ fraction, (splitAtPoint (Text.trimCharacters amount.toList)).2 = some fraction ∧
      Text.BreaksAt decimals fraction

theorem scaledDigits_error_iff {characters : List Char} {decimals : Nat} {fault : Fault} :
    scaledDigits characters decimals = .error fault ↔
      fault = .splitCharacter ∧
        ∃ fraction, (splitAtPoint characters).2 = some fraction ∧
          Text.BreaksAt decimals fraction := by
  rw [scaledDigits]
  rcases splitAtPoint characters with ⟨whole, _ | fraction⟩
  · simp [Text.byteLength]
  · simp only [Option.getD_some]
    by_cases fits : Text.byteLength fraction ≤ decimals
    · have whole : ¬ Text.BreaksAt decimals fraction := fun breaks => by
        have longer := breaks.1
        omega
      simp [fits, whole]
    · rw [if_neg fits]
      cases taken : Text.takeBytes decimals fraction with
      | none => simp [Text.takeBytes_eq_none_iff.mp taken, eq_comm]
      | some kept =>
          have whole : ¬ Text.BreaksAt decimals fraction := by
            rw [← Text.takeBytes_eq_none_iff, taken]
            simp
          simp [whole]

theorem readNegative_ne_splitCharacter (digits : List Char) (power : Nat) :
    readNegative digits power ≠ .splitCharacter := by
  unfold readNegative
  repeat' split
  all_goals simp

/-- Reading the digits fails for other reasons than where the fraction is cut. -/
theorem readScaled_ne_splitCharacter (first : Option Char) (digits : List Char) (power : Nat) :
    (do
      if first = some '-' then throw (readNegative digits.tail power)
      let value ← (Numeral.read 10 digits).mapError .malformed
      return value * BitVec.ofNat 256 (Nat.pow 10 power)) ≠
    (Except.error .splitCharacter : Except Fault Word) := by
  by_cases negative : first = some '-'
  · rw [if_pos negative]
    intro split
    exact readNegative_ne_splitCharacter _ _ (Except.error.inj split)
  · rw [if_neg negative]
    intro split
    cases found : Numeral.read 10 digits with
    | error cause =>
        rw [found] at split
        cases split
    | ok value =>
        rw [found] at split
        cases split

theorem toBaseUnits_splitCharacter_iff {amount : String} {decimals : Nat} :
    toBaseUnits amount decimals = .error .splitCharacter ↔ Splits amount decimals := by
  rw [toBaseUnits, parseUnits, Splits]
  by_cases large : greatestDecimals < decimals
  · have notSmall : ¬ decimals ≤ greatestDecimals := Nat.not_le.mpr large
    rw [if_pos large]
    constructor
    · intro split
      cases split
    · intro splits
      exact absurd splits.1 notSmall
  · rw [if_neg large]
    cases scaled : scaledDigits (Text.trimCharacters amount.toList) decimals with
    | error fault =>
        rcases scaledDigits_error_iff.mp scaled with ⟨equal, splits⟩
        subst equal
        exact ⟨fun _ => ⟨Nat.not_lt.mp large, splits⟩, fun _ => rfl⟩
    | ok digits =>
        have whole : ¬ ∃ fraction, (splitAtPoint (Text.trimCharacters amount.toList)).2 =
            some fraction ∧ Text.BreaksAt decimals fraction := by
          intro splits
          have fails := scaledDigits_error_iff.mpr ⟨rfl, splits⟩
          rw [scaled] at fails
          cases fails
        constructor
        · intro split
          exact absurd split (readScaled_ne_splitCharacter _ digits.1 digits.2)
        · intro splits
          exact absurd splits.2 whole

theorem ofAmount_eq_aborted_iff {amount : String} {fault : Fault} :
    GatewayError.ofAmount amount fault = .aborted ↔ fault = .splitCharacter := by
  cases fault <;> simp [GatewayError.ofAmount]

theorem baseUnits_aborted_iff {amount : String} {decimals : Nat} :
    baseUnits amount decimals = .error .aborted ↔ Splits amount decimals := by
  rw [← toBaseUnits_splitCharacter_iff, baseUnits, Outcome.mapError_eq_error_iff]
  simp [ofAmount_eq_aborted_iff]

end Amount

end LockGateway
