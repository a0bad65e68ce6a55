import LockGateway.Proofs.Amount.Decimal
import LockGateway.Proofs.Amount.RoundTrip

/-! Base units as they are printed: a decimal text without needless zeros, that denotes just
the amount and is read back digit by digit. So two values with the same places never print
alike. With more places than there can be nothing is printed, and nothing is read. -/

namespace LockGateway.Amount

open Numeral

/-- No point stands at the end, and no zero at the end of a fraction. -/
structure Trimmed (characters : List Char) : Prop where
  point : characters.getLast? ≠ some '.'
  zero (pointed : '.' ∈ characters) : characters.getLast? ≠ some '0'

/-- The text is an amount of so many base units, no more and no less. All of its digits are
read, and what they make is multiplied without going round. -/
structure Prints (text : String) (value : Word) (decimals : Nat) : Prop where
  decimal : IsDecimal text.toList
  trimmed : Trimmed text.toList
  denotes : denoted text * 10 ^ decimals = value.toNat
  whole : ∃ digits power number, ReadAs text decimals digits power number ∧
    digits = text.toList.filter (· ≠ '.') ∧ number.toNat * 10 ^ power = value.toNat
  read : baseUnits text decimals = .ok value

/-! ## Written digits -/

theorem plainNumber_map {digits : List Nat} (small : ∀ digit ∈ digits, digit < 10) :
    plainNumber (digits.map digitCharacter) = Nat.ofDigits 10 digits.reverse := by
  have same : digits.map (digitNumber ∘ digitCharacter) = digits.map id :=
    List.map_congr_left fun digit inside => (decimal_digitCharacter (small digit inside)).2.symm
  rw [plainNumber, List.map_map, same, List.map_id]

section Pointed

variable {whole fraction : List Nat} (wholeSmall : ∀ digit ∈ whole, digit < 10)
  (fractionSmall : ∀ digit ∈ fraction, digit < 10)

theorem mem_pointed {character : Char} (member : character ∈ pointed whole fraction) :
    character = '.' ∨ character ∈ (whole ++ fraction).map digitCharacter := by
  rw [pointed] at member
  split at member
  · rw [List.map_append]
    exact .inr (List.mem_append_left _ member)
  · simp only [List.mem_append, List.mem_cons, List.map_append] at member ⊢
    tauto

include wholeSmall fractionSmall

theorem isDigit_written :
    ∀ character ∈ (whole ++ fraction).map digitCharacter, character.isDigit = true := by
  apply isDigit_map
  rw [List.forall_mem_append]
  exact ⟨wholeSmall, fractionSmall⟩

theorem isDecimal_pointed (filled : whole ≠ []) : IsDecimal (pointed whole fraction) := by
  have digits := isDigit_written wholeSmall fractionSmall
  have cut := cut_pointed wholeSmall fractionSmall (Nat.le_refl fraction.length)
  refine ⟨cut.isNumber_iff.mpr ?_, ?_⟩
  · rw [List.append_nil]
    refine ⟨fun character member => .inl (digits character member), ?_⟩
    cases whole with
    | nil => exact absurd rfl filled
    | cons first rest =>
        exact ⟨digitCharacter first, List.mem_cons_self, digits _ List.mem_cons_self⟩
  · intro skipped
    rcases mem_pointed skipped with point | written
    · cases point
    · cases digits '_' written

theorem trimmed_pointed (last : fraction.getLast? ≠ some 0) : Trimmed (pointed whole fraction) := by
  rw [pointed]
  cases fraction with
  | nil =>
      constructor
      · intro point
        exact noPoint_map wholeSmall (List.mem_of_getLast? point)
      · intro pointed
        exact absurd pointed (noPoint_map wholeSmall)
  | cons first rest =>
      have ends : (whole.map digitCharacter ++ '.' :: (first :: rest).map digitCharacter).getLast? =
          ((first :: rest).getLast?).map digitCharacter := by
        simp [List.getLast?_append, List.getLast?_cons]
      have placed {digit : Nat} (found : (first :: rest).getLast? = some digit) : digit < 10 :=
        fractionSmall digit (List.mem_of_getLast? found)
      rw [if_neg (by simp)]
      constructor
      · rw [ends]
        intro point
        rcases Option.map_eq_some_iff.mp point with ⟨digit, found, equal⟩
        exact (plain_digitCharacter (placed found)).noPoint equal
      · intro _
        rw [ends]
        intro zero
        rcases Option.map_eq_some_iff.mp zero with ⟨digit, found, equal⟩
        have number := (decimal_digitCharacter (placed found)).2
        rw [equal] at number
        exact last (found.trans (congrArg some number))

theorem filter_pointed :
    (pointed whole fraction).filter (· ≠ '.') = (whole ++ fraction).map digitCharacter := by
  have kept {digits : List Nat} (small : ∀ digit ∈ digits, digit < 10) :
      (digits.map digitCharacter).filter (· ≠ '.') = digits.map digitCharacter := by
    rw [List.filter_eq_self]
    intro character member
    simpa using (plain_map small character member).noPoint
  rw [pointed, List.map_append]
  cases fraction with
  | nil => simpa using kept wholeSmall
  | cons first rest =>
      have point : ('.' :: (first :: rest).map digitCharacter).filter (· ≠ '.') =
          (first :: rest).map digitCharacter := kept fractionSmall
      rw [if_neg (by simp), List.filter_append, kept wholeSmall, point]

end Pointed

/-! ## What is printed -/

section Printed

variable {value : Word} {decimals : Nat} {whole fraction : List Nat}

/-- An amount none of which is left unseen comes to whole base units. -/
theorem CutAs.denoted_eq {characters counted : List Char} {power : Nat}
    (cut : CutAs decimals characters counted [] power) (decimal : IsDecimal characters) :
    numberFrom 0 characters * 10 ^ decimals = (plainNumber counted * 10 ^ power : Nat) := by
  have lengths := (cut.lengths decimal).1
  rw [List.length_nil, Nat.add_zero] at lengths
  rw [cut.numberFrom_eq, List.append_nil, lengths, pow_add]
  push_cast
  field_simp

theorem WrittenAs.prints (written : WrittenAs value decimals whole fraction)
    (few : decimals ≤ greatestDecimals) :
    Prints (String.ofList (unitsCharacters value decimals)) value decimals := by
  have wholeSmall := written.wholeSmall
  have fractionSmall := written.fractionSmall
  have decimal := isDecimal_pointed wholeSmall fractionSmall written.filled
  have cut := cut_pointed wholeSmall fractionSmall written.short
  have small : ∀ digit ∈ whole ++ fraction, digit < 10 := by
    rw [List.forall_mem_append]
    exact ⟨wholeSmall, fractionSmall⟩
  have text : (String.ofList (unitsCharacters value decimals)).toList = pointed whole fraction := by
    rw [String.toList_ofList, written.text]
  refine ⟨?_, ?_, ?_, ?_, ?_⟩
  · rw [text]
    exact decimal
  · rw [text]
    exact trimmed_pointed wholeSmall fractionSmall written.trimmed
  · rw [denoted, text, (pointed_plain wholeSmall fractionSmall written.filled).2,
      cut.denoted_eq decimal, plainNumber_map small, written.number]
  · refine ⟨_, _, _, written.readAs few, ?_, ?_⟩
    · rw [text, filter_pointed wholeSmall fractionSmall]
    · rw [written.kept, written.number]
  · exact Outcome.mapError_eq_ok_iff.mpr (toBaseUnits_unitsCharacters value few)

end Printed

/-- Base units with few enough places are printed as their amount, which is read back, and
no others are printed like them. With more places nothing is printed and nothing read. -/
theorem units_round_trip (value : Word) (decimals : Nat) :
    (decimals ≤ greatestDecimals → ∃ text, reportedUnits value decimals = .ok text ∧
      Prints text value decimals ∧
      ∀ other, reportedUnits other decimals = .ok text ↔ other = value) ∧
    (greatestDecimals < decimals →
      reportedUnits value decimals =
          .error (.invalidResponse (.unprintableAmount (.invalidUnit decimals))) ∧
        ∀ amount, baseUnits amount decimals =
          .error (.validation (.malformedAmount amount (.invalidUnit decimals)))) := by
  constructor
  · intro few
    rcases exists_written value decimals with ⟨whole, fraction, written⟩
    refine ⟨_, reportedUnits_eq value few, written.prints few, ?_⟩
    intro other
    rw [reportedUnits_eq other few, Except.ok.injEq]
    constructor
    · intro alike
      have read := toBaseUnits_unitsCharacters other few
      rw [alike, toBaseUnits_unitsCharacters value few] at read
      exact (Except.ok.inj read).symm
    · rintro rfl
      rfl
  · intro many
    constructor
    · rw [reportedUnits, ofBaseUnits, if_pos many]
      rfl
    · intro amount
      rw [baseUnits, toBaseUnits, parseUnits, if_pos many]
      rfl

/-- The greatest value with the most places that there can be, and with one more. -/
theorem greatest_round_trips :
    77 ≤ greatestDecimals ∧
      (∃ text, reportedUnits (BitVec.allOnes 256) 77 = .ok text ∧
        Prints text (BitVec.allOnes 256) 77 ∧
        ∀ other, reportedUnits other 77 = .ok text ↔ other = BitVec.allOnes 256) ∧
      greatestDecimals < 78 ∧
      reportedUnits (BitVec.allOnes 256) 78 =
        .error (.invalidResponse (.unprintableAmount (.invalidUnit 78))) ∧
      ∀ amount, baseUnits amount 78 =
        .error (.validation (.malformedAmount amount (.invalidUnit 78))) := by
  have few : 77 ≤ greatestDecimals := by decide
  have many : greatestDecimals < 78 := by decide
  exact ⟨few, (units_round_trip (BitVec.allOnes 256) 77).1 few, many,
    (units_round_trip (BitVec.allOnes 256) 78).2 many⟩

end LockGateway.Amount
