import LockGateway.Proofs.Amount.Number

/-! Base units that are written as an amount and read again. No digit is lost on the way:
the zeros that are not written are the power of ten by which the rest is multiplied. -/

namespace LockGateway.Amount

open Numeral

/-! ## Plain characters -/

/-- Neither a mark of an amount nor a blank, and a single byte. -/
structure Plain (character : Char) : Prop where
  noPoint : character ≠ '.'
  unsigned : character ≠ '-'
  visible : Text.isBlank character = false
  single : character.utf8Size = 1

theorem plain_digitCharacter {digit : Nat} (small : digit < 10) :
    Plain (digitCharacter digit) := by
  have all : ∀ digit : Fin 10, digitCharacter digit ≠ '.' ∧ digitCharacter digit ≠ '-' ∧
      Text.isBlank (digitCharacter digit) = false ∧ (digitCharacter digit).utf8Size = 1 := by
    decide
  rcases all ⟨digit, small⟩ with ⟨noPoint, unsigned, visible, single⟩
  exact ⟨noPoint, unsigned, visible, single⟩

theorem plain_map {digits : List Nat} (small : ∀ digit ∈ digits, digit < 10) :
    ∀ character ∈ digits.map digitCharacter, Plain character := by
  intro character member
  rcases List.mem_map.mp member with ⟨digit, inside, equal⟩
  rw [← equal]
  exact plain_digitCharacter (small digit inside)

theorem noPoint_map {digits : List Nat} (small : ∀ digit ∈ digits, digit < 10) :
    '.' ∉ digits.map digitCharacter :=
  fun member => (plain_map small _ member).noPoint rfl

theorem trimCharacters_visible {characters : List Char}
    (visible : ∀ character ∈ characters, Text.isBlank character = false) :
    Text.trimCharacters characters = characters := by
  have kept {characters : List Char}
      (visible : ∀ character ∈ characters, Text.isBlank character = false) :
      characters.dropWhile Text.isBlank = characters := by
    cases characters with
    | nil => rfl
    | cons first rest => simp [visible first (.head rest)]
  rw [Text.trimCharacters, kept visible, kept, List.reverse_reverse]
  simpa using visible

/-! ## Zeros that are not written -/

theorem withoutTrailingZeros_append (digits : List Char) :
    ∃ count, withoutTrailingZeros digits ++ List.replicate count '0' = digits := by
  refine ⟨(digits.reverse.takeWhile (· = '0')).length, ?_⟩
  have zeros : digits.reverse.takeWhile (· = '0') =
      List.replicate (digits.reverse.takeWhile (· = '0')).length '0' := by
    apply List.eq_replicate_of_mem
    intro character member
    have zero := List.all_eq_true.mp List.all_takeWhile character member
    simpa using zero
  have parts := List.takeWhile_append_dropWhile (p := (· = '0')) (l := digits.reverse)
  rw [zeros] at parts
  have reversed := congrArg List.reverse parts
  rw [List.reverse_append, List.reverse_replicate, List.reverse_reverse] at reversed
  exact reversed

theorem getLast?_withoutTrailingZeros (digits : List Char) :
    (withoutTrailingZeros digits).getLast? ≠ some '0' := by
  rw [withoutTrailingZeros, List.getLast?_reverse]
  intro zero
  have other := List.head?_dropWhile_not (· = '0') digits.reverse
  rw [zero] at other
  simp at other

theorem digits_eq_zero {digits : List Nat} (small : ∀ digit ∈ digits, digit < 10) {count : Nat}
    (zeros : digits.map digitCharacter = List.replicate count '0') :
    digits = List.replicate count 0 := by
  have length : digits.length = count := by simpa using congrArg List.length zeros
  rw [← length]
  apply List.eq_replicate_of_mem
  intro digit member
  have zero : digitCharacter digit = '0' := by
    apply List.eq_of_mem_replicate
    rw [← zeros]
    exact List.mem_map_of_mem member
  have named := digitValue?_digitCharacter (Nat.lt_trans (small digit member) (by decide))
  rw [zero] at named
  exact (Option.some.inj named).symm

theorem paddedDigits_eq_map {width value : Nat} (some : 0 < width) (short : value < 10 ^ width) :
    ∃ values : List Nat, paddedDigits width value = values.map digitCharacter ∧
      (∀ digit ∈ values, digit < 10) ∧ values.length = width ∧
      Nat.ofDigits 10 values.reverse = value := by
  have bound := length_digits_le (by decide) some short
  rcases digits_eq_map (by decide : 1 < 10) value with ⟨values, written, _, small, number⟩
  refine ⟨List.replicate (width - values.length) 0 ++ values, ?_, ?_, ?_, ?_⟩
  · rw [paddedDigits, written, List.length_map, List.map_append, List.map_replicate]
    rfl
  · intro digit member
    rcases List.mem_append.mp member with zero | member
    · rw [List.eq_of_mem_replicate zero]
      decide
    · exact small digit member
  · rw [written, List.length_map] at bound
    simp
    omega
  · rw [List.reverse_append, List.reverse_replicate, Nat.ofDigits_append_replicate_zero, number]

/-- The fraction as it is written, against the number that it stands for. -/
theorem fraction_eq_map {width value : Nat} (short : value < 10 ^ width) :
    ∃ values : List Nat,
      withoutTrailingZeros (paddedDigits width value) = values.map digitCharacter ∧
      (∀ digit ∈ values, digit < 10) ∧ values.length ≤ width ∧
      Nat.ofDigits 10 values.reverse * 10 ^ (width - values.length) = value := by
  cases width with
  | zero =>
      have none : value = 0 := by simpa using short
      rw [none]
      exact ⟨[], rfl, by simp, by simp, rfl⟩
  | succ width =>
      rcases paddedDigits_eq_map (Nat.succ_pos width) short with ⟨all, written, small, full, number⟩
      rcases withoutTrailingZeros_append (paddedDigits (width + 1) value) with ⟨count, cut⟩
      rw [written] at cut
      rcases List.map_eq_append_iff.mp cut.symm with ⟨kept, dropped, parts, keptEqual, zeros⟩
      rw [parts, List.forall_mem_append] at small
      rw [digits_eq_zero small.2 zeros] at parts
      have lengths := congrArg List.length parts
      rw [full, List.length_append, List.length_replicate] at lengths
      have rest : width + 1 - kept.length = count := by omega
      refine ⟨kept, by rw [written, keptEqual], small.1, by omega, ?_⟩
      rw [rest, ← number, parts, List.reverse_append, List.reverse_replicate, Nat.ofDigits_append,
        Nat.ofDigits_replicate_zero, List.length_replicate]
      ring

/-! ## Reading what is written -/

/-- The digits of an amount before and behind its point, which is only there if it has to be. -/
def pointed (whole fraction : List Nat) : List Char :=
  if (fraction.map digitCharacter).isEmpty then whole.map digitCharacter
  else whole.map digitCharacter ++ '.' :: fraction.map digitCharacter

section Pointed

variable {whole fraction : List Nat} (wholeSmall : ∀ digit ∈ whole, digit < 10)
  (fractionSmall : ∀ digit ∈ fraction, digit < 10)

include wholeSmall fractionSmall

/-- Nothing of what is written is cut off. -/
theorem cut_pointed {decimals : Nat} (short : fraction.length ≤ decimals) :
    CutAs decimals (pointed whole fraction) ((whole ++ fraction).map digitCharacter) []
      (decimals - fraction.length) := by
  rw [pointed]
  cases fraction with
  | nil => simpa using CutAs.whole (noPoint_map wholeSmall)
  | cons first rest =>
      have places := Text.byteLength_single fun character member =>
        (plain_map fractionSmall character member).single
      rw [List.length_map] at places
      have cut := CutAs.short (noPoint_map wholeSmall) (places.symm ▸ short)
      rwa [places, ← List.map_append] at cut

/-- What is written begins with a digit and is not cut by trimming. -/
theorem pointed_plain (filled : whole ≠ []) :
    (pointed whole fraction).head? ≠ some '-' ∧
      Text.trimCharacters (pointed whole fraction) = pointed whole fraction := by
  have point : Text.isBlank '.' = false := by decide
  have wholePlain := plain_map wholeSmall
  have fractionPlain := plain_map fractionSmall
  cases whole with
  | nil => exact absurd rfl filled
  | cons first rest =>
      have unsigned := (wholePlain _ List.mem_cons_self).unsigned
      constructor
      · rw [pointed]
        split <;> simpa using unsigned
      · apply trimCharacters_visible
        intro character member
        rw [pointed] at member
        split at member
        · exact (wholePlain character member).visible
        · rcases List.mem_append.mp member with inWhole | member
          · exact (wholePlain character inWhole).visible
          · rcases List.mem_cons.mp member with isPoint | inFraction
            · rw [isPoint]
              exact point
            · exact (fractionPlain character inFraction).visible

end Pointed

/-- The digits that are written make the value without the zeros that are not. -/
theorem ofDigits_whole_fraction {whole fraction : List Nat} {value decimals : Nat}
    (short : fraction.length ≤ decimals)
    (wholeNumber : Nat.ofDigits 10 whole.reverse = value / 10 ^ decimals)
    (fractionNumber :
      Nat.ofDigits 10 fraction.reverse * 10 ^ (decimals - fraction.length) =
        value % 10 ^ decimals) :
    Nat.ofDigits 10 (whole ++ fraction).reverse * 10 ^ (decimals - fraction.length) = value := by
  have unit : 10 ^ fraction.length * 10 ^ (decimals - fraction.length) = 10 ^ decimals := by
    rw [← pow_add]
    congr 1
    omega
  calc Nat.ofDigits 10 (whole ++ fraction).reverse * 10 ^ (decimals - fraction.length)
      = Nat.ofDigits 10 fraction.reverse * 10 ^ (decimals - fraction.length) +
          10 ^ fraction.length * 10 ^ (decimals - fraction.length) *
            Nat.ofDigits 10 whole.reverse := by
        rw [List.reverse_append, Nat.ofDigits_append, List.length_reverse]
        ring
    _ = value % 10 ^ decimals + 10 ^ decimals * (value / 10 ^ decimals) := by
        rw [fractionNumber, unit, wholeNumber]
    _ = value := Nat.mod_add_div value _

/-- The digits with which base units are written. -/
structure WrittenAs (value : Word) (decimals : Nat) (whole fraction : List Nat) : Prop where
  text : unitsCharacters value decimals = pointed whole fraction
  filled : whole ≠ []
  wholeSmall : ∀ digit ∈ whole, digit < 10
  fractionSmall : ∀ digit ∈ fraction, digit < 10
  short : fraction.length ≤ decimals
  trimmed : fraction.getLast? ≠ some 0
  number : Nat.ofDigits 10 (whole ++ fraction).reverse * 10 ^ (decimals - fraction.length) =
    value.toNat

theorem exists_written (value : Word) (decimals : Nat) :
    ∃ whole fraction, WrittenAs value decimals whole fraction := by
  have unit : 0 < 10 ^ decimals := Nat.pow_pos (by decide)
  rcases digits_eq_map (by decide : 1 < 10) (value.toNat / 10 ^ decimals) with
    ⟨whole, wholeWritten, filled, wholeSmall, wholeNumber⟩
  rcases fraction_eq_map (Nat.mod_lt value.toNat unit) with
    ⟨fraction, fractionWritten, fractionSmall, short, fractionNumber⟩
  refine ⟨whole, fraction, ?_, filled, wholeSmall, fractionSmall, short, ?_,
    ofDigits_whole_fraction short wholeNumber fractionNumber⟩
  · rw [pointed, ← fractionWritten, ← wholeWritten]
    rfl
  · intro zero
    have last := getLast?_withoutTrailingZeros (paddedDigits decimals (value.toNat % 10 ^ decimals))
    rw [fractionWritten, List.getLast?_map, zero] at last
    exact last rfl

section Written

variable {value : Word} {decimals : Nat} {whole fraction : List Nat}

/-- What is written fits a word, the zeros that are not written even more so. -/
theorem WrittenAs.kept (written : WrittenAs value decimals whole fraction) :
    (BitVec.ofNat 256 (Nat.ofDigits 10 (whole ++ fraction).reverse)).toNat =
      Nat.ofDigits 10 (whole ++ fraction).reverse := by
  apply Nat.mod_eq_of_lt
  have number := written.number
  have least := value.isLt
  have positive : 0 < 10 ^ (decimals - fraction.length) := Nat.pow_pos (by decide)
  have grows := Nat.le_mul_of_pos_right (Nat.ofDigits 10 (whole ++ fraction).reverse) positive
  omega

theorem WrittenAs.readAs (written : WrittenAs value decimals whole fraction)
    (places : decimals ≤ greatestDecimals) :
    ReadAs (String.ofList (unitsCharacters value decimals)) decimals
      ((whole ++ fraction).map digitCharacter) (decimals - fraction.length)
      (BitVec.ofNat 256 (Nat.ofDigits 10 (whole ++ fraction).reverse)) := by
  rcases pointed_plain written.wholeSmall written.fractionSmall written.filled with
    ⟨unsigned, trimmed⟩
  have small : ∀ digit ∈ whole ++ fraction, digit < 10 := by
    rw [List.forall_mem_append]
    exact ⟨written.wholeSmall, written.fractionSmall⟩
  refine ⟨places, ?_, ?_, ?_⟩
  · rw [written.text, String.toList_ofList, trimmed]
    exact unsigned
  · rw [written.text, String.toList_ofList, trimmed]
    exact scaledDigits_ok_iff.mpr
      ⟨[], cut_pointed written.wholeSmall written.fractionSmall written.short⟩
  · rw [read_ok_iff (by decide)]
    exact ⟨_, spells_map (by decide) small, written.kept⟩

end Written

theorem toBaseUnits_unitsCharacters (value : Word) {decimals : Nat}
    (places : decimals ≤ greatestDecimals) :
    toBaseUnits (String.ofList (unitsCharacters value decimals)) decimals = .ok value := by
  rcases exists_written value decimals with ⟨whole, fraction, written⟩
  rw [toBaseUnits_ok_iff]
  refine ⟨_, _, _, written.readAs places, ?_⟩
  apply BitVec.eq_of_toNat_eq
  rw [toNat_scaled, written.kept, written.number, Nat.mod_eq_of_lt value.isLt]

theorem reportedUnits_eq (value : Word) {decimals : Nat} (places : decimals ≤ greatestDecimals) :
    reportedUnits value decimals = .ok (String.ofList (unitsCharacters value decimals)) := by
  rw [reportedUnits, ofBaseUnits, if_neg (Nat.not_lt.mpr places)]
  rfl

/-- What a contract reports is written as an amount that is read back. -/
theorem reportedUnits_ok (value : Word) {decimals : Nat} (places : decimals ≤ greatestDecimals) :
    ∃ text, reportedUnits value decimals = .ok text ∧ toBaseUnits text decimals = .ok value :=
  ⟨_, reportedUnits_eq value places, toBaseUnits_unitsCharacters value places⟩

end LockGateway.Amount
