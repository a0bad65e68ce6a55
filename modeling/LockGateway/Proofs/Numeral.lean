import Mathlib.Data.Nat.Digits.Lemmas
import LockGateway.Numeral

/-! Numbers written in a radix, against the digits of natural numbers. A text is read if
all its characters but the underscores are digits and the number that they make fits a
word, and it is read as that number. -/

namespace LockGateway.Numeral

/-! ## Single digits -/

theorem digitValue?_digitCharacter {digit : Nat} (small : digit < 36) :
    digitValue? (digitCharacter digit) = some digit := by
  have all : ∀ digit : Fin 36, digitValue? (digitCharacter digit) = some digit.val := by decide
  exact all ⟨digit, small⟩

theorem digitValue?_eq_zero_iff {character : Char} :
    digitValue? character = some 0 ↔ character = '0' := by
  constructor
  · intro zero
    apply Char.ext
    apply UInt32.toNat_inj.mp
    change character.toNat = 48
    simp only [digitValue?] at zero
    repeat' split at zero
    all_goals simp at zero
    all_goals omega
  · rintro rfl
    rfl

/-! ## Reading -/

/-- The text spells these digits, most significant first. Underscores spell none. -/
inductive Spells (radix : Nat) : List Char → List Nat → Prop
  | nil : Spells radix [] []
  | skip {rest : List Char} {digits : List Nat} (spells : Spells radix rest digits) :
      Spells radix ('_' :: rest) digits
  | digit {character : Char} {digit : Nat} {rest : List Char} {digits : List Nat}
      (named : digitValue? character = some digit) (inside : digit < radix)
      (spells : Spells radix rest digits) : Spells radix (character :: rest) (digit :: digits)

theorem spells_underscore_iff {radix : Nat} {rest : List Char} {digits : List Nat} :
    Spells radix ('_' :: rest) digits ↔ Spells radix rest digits := by
  constructor
  · intro spells
    cases spells with
    | skip spells => exact spells
    | digit named => cases named
  · exact .skip

theorem spells_cons_iff {radix : Nat} {character : Char} {rest : List Char} {all : List Nat}
    (visible : character ≠ '_') :
    Spells radix (character :: rest) all ↔
      ∃ digit digits, digitValue? character = some digit ∧ digit < radix ∧
        Spells radix rest digits ∧ all = digit :: digits := by
  constructor
  · intro spells
    cases spells with
    | skip => exact absurd rfl visible
    | digit named inside spells => exact ⟨_, _, named, inside, spells, rfl⟩
  · rintro ⟨digit, digits, named, inside, spells, rfl⟩
    exact .digit named inside spells

/-- The number that digits make behind a number already read. -/
def valueFrom (radix value : Nat) (digits : List Nat) : Nat :=
  value * radix ^ digits.length + Nat.ofDigits radix digits.reverse

theorem valueFrom_cons (radix value digit : Nat) (digits : List Nat) :
    valueFrom radix value (digit :: digits) = valueFrom radix (value * radix + digit) digits := by
  simp only [valueFrom, List.length_cons, pow_succ, Nat.ofDigits_reverse_cons]
  ring

theorem le_valueFrom {radix : Nat} (positive : 0 < radix) (value : Nat) (digits : List Nat) :
    value ≤ valueFrom radix value digits := by
  have grows : value * 1 ≤ value * radix ^ digits.length :=
    Nat.mul_le_mul_left value (Nat.pow_pos positive)
  rw [valueFrom]
  omega

theorem readFrom_ok_iff {radix value : Nat} {characters : List Char} {word : Word}
    (positive : 0 < radix) (small : value < 2 ^ 256) :
    readFrom radix value characters = .ok word ↔
      ∃ digits, Spells radix characters digits ∧ word.toNat = valueFrom radix value digits := by
  induction characters generalizing value with
  | nil =>
      have kept : (BitVec.ofNat 256 value).toNat = value := Nat.mod_eq_of_lt small
      constructor
      · intro read
        cases read
        exact ⟨[], .nil, by simp [valueFrom, kept]⟩
      · rintro ⟨_, ⟨⟩, equal⟩
        have same : word = BitVec.ofNat 256 value := by
          apply BitVec.eq_of_toNat_eq
          simpa [valueFrom, kept] using equal
        rw [readFrom, same]
  | cons character rest induction =>
      rw [readFrom]
      by_cases skipped : character = '_'
      · simp only [skipped, if_true, spells_underscore_iff]
        exact induction small
      · simp only [if_neg skipped, spells_cons_iff skipped]
        cases named : digitValue? character with
        | none => simp
        | some digit =>
            by_cases outside : radix ≤ digit
            · simp [outside]
            · have inside : digit < radix := Nat.lt_of_not_le outside
              have spelled : (∃ all, (∃ found digits, some digit = some found ∧ found < radix ∧
                    Spells radix rest digits ∧ all = found :: digits) ∧
                    word.toNat = valueFrom radix value all) ↔
                  ∃ digits, Spells radix rest digits ∧
                    word.toNat = valueFrom radix (value * radix + digit) digits := by
                simp only [← valueFrom_cons]
                constructor
                · rintro ⟨_, ⟨_, digits, ⟨⟩, _, spells, rfl⟩, equal⟩
                  exact ⟨digits, spells, equal⟩
                · rintro ⟨digits, spells, equal⟩
                  exact ⟨_, ⟨digit, digits, rfl, inside, spells, rfl⟩, equal⟩
              rw [spelled]
              by_cases fits : value * radix + digit < 2 ^ 256
              · have small : ¬ Nat.pow 2 256 ≤ value * radix + digit := Nat.not_le.mpr fits
                simp only [outside, small, if_false]
                exact induction fits
              · have large : Nat.pow 2 256 ≤ value * radix + digit := Nat.le_of_not_lt fits
                simp only [outside, large, if_false, if_true, reduceCtorEq, false_iff]
                rintro ⟨digits, _, equal⟩
                have bound := le_valueFrom positive (value * radix + digit) digits
                have least := word.isLt
                omega

/-- A text is read just if it spells a number that fits, and as that number. -/
theorem read_ok_iff {radix : Nat} {characters : List Char} {word : Word} (positive : 0 < radix) :
    read radix characters = .ok word ↔
      ∃ digits, Spells radix characters digits ∧
        word.toNat = Nat.ofDigits radix digits.reverse := by
  rw [read, readFrom_ok_iff positive (Nat.two_pow_pos 256)]
  simp [valueFrom]

/-- Digits of a number that does not fit are refused for just that. -/
theorem readFrom_tooLarge {radix value : Nat} {characters : List Char} {digits : List Nat}
    (spells : Spells radix characters digits) (small : value < 2 ^ 256)
    (large : 2 ^ 256 ≤ valueFrom radix value digits) :
    readFrom radix value characters = .error .tooLarge := by
  induction spells generalizing value with
  | nil =>
      simp only [valueFrom, List.length_nil, pow_zero, Nat.mul_one, List.reverse_nil,
        Nat.ofDigits_nil] at large
      omega
  | skip spells induction =>
      rw [readFrom, if_pos rfl]
      exact induction small large
  | @digit character digit rest digits named inside spells induction =>
      have visible : character ≠ '_' := by
        rintro rfl
        cases named
      rw [valueFrom_cons] at large
      rw [readFrom, if_neg visible, named]
      simp only [Nat.not_le.mpr inside, if_false]
      by_cases fits : value * radix + digit < 2 ^ 256
      · have below : ¬ Nat.pow 2 256 ≤ value * radix + digit := Nat.not_le.mpr fits
        rw [if_neg below]
        exact induction fits large
      · have beyond : Nat.pow 2 256 ≤ value * radix + digit := Nat.le_of_not_lt fits
        rw [if_pos beyond]

theorem spells_zeros_iff {radix : Nat} {characters : List Char} (positive : 0 < radix) :
    (∃ digits, Spells radix characters digits ∧ ∀ digit ∈ digits, digit = 0) ↔
      ∀ character ∈ characters, character = '0' ∨ character = '_' := by
  constructor
  · intro spelled
    rcases spelled with ⟨digits, spells, zeros⟩
    induction spells with
    | nil => simp
    | skip spells induction => simpa using induction zeros
    | digit named inside spells induction =>
        rw [List.forall_mem_cons] at zeros
        rw [zeros.1, digitValue?_eq_zero_iff] at named
        simpa [named] using induction zeros.2
  · intro blank
    induction characters with
    | nil => exact ⟨[], .nil, by simp⟩
    | cons character rest induction =>
        rw [List.forall_mem_cons] at blank
        rcases induction blank.2 with ⟨digits, spells, zeros⟩
        rcases blank.1 with zero | skipped
        · refine ⟨0 :: digits, ?_, by simpa using zeros⟩
          exact .digit (digitValue?_eq_zero_iff.mpr zero) positive spells
        · rw [skipped]
          exact ⟨digits, .skip spells, zeros⟩

/-- Only zeros are read as nothing. -/
theorem read_zero_iff {radix : Nat} {characters : List Char} (positive : 0 < radix) :
    read radix characters = .ok 0 ↔
      ∀ character ∈ characters, character = '0' ∨ character = '_' := by
  rw [read_ok_iff positive, ← spells_zeros_iff positive]
  apply exists_congr
  intro digits
  apply and_congr_right
  intro _
  constructor
  · intro nothing digit member
    exact Nat.digits_zero_of_eq_zero (by omega) nothing.symm digit (List.mem_reverse.mpr member)
  · intro zeros
    have same : digits = List.replicate digits.length 0 := List.eq_replicate_of_mem zeros
    rw [same, List.reverse_replicate, Nat.ofDigits_replicate_zero]
    rfl

/-! ## Decimal digits -/

/-- The number of a decimal digit. -/
def digitNumber (character : Char) : Nat := character.toNat - 48

/-- The number that decimal digits make. Underscores between them do not matter. -/
def decimalNumber (characters : List Char) : Nat :=
  Nat.ofDigits 10 ((characters.filter (· ≠ '_')).map digitNumber).reverse

theorem isDigit_iff {character : Char} :
    character.isDigit = true ↔ 48 ≤ character.toNat ∧ character.toNat ≤ 57 := by
  simp only [Char.isDigit, Bool.and_eq_true, decide_eq_true_eq, ge_iff_le, UInt32.le_iff_toNat_le]
  rfl

theorem utf8Size_decimal {character : Char} (decimal : character.isDigit = true) :
    character.utf8Size = 1 := by
  have bounds := isDigit_iff.mp decimal
  have small : character.val ≤ 127 :=
    UInt32.le_iff_toNat_le.mpr (Nat.le_trans bounds.2 (by decide))
  simp [Char.utf8Size, small]

theorem digitValue?_decimal_iff {character : Char} {digit : Nat} :
    digitValue? character = some digit ∧ digit < 10 ↔
      character.isDigit = true ∧ digit = digitNumber character := by
  rw [isDigit_iff, digitValue?, digitNumber]
  generalize character.toNat = code
  by_cases decimal : 48 ≤ code ∧ code ≤ 57
  · rw [if_pos decimal, Option.some.injEq]
    omega
  · rw [if_neg decimal]
    split
    · rw [Option.some.injEq]
      omega
    · split
      · rw [Option.some.injEq]
        omega
      · simp
        omega

theorem spells_decimal_iff {characters : List Char} {digits : List Nat} :
    Spells 10 characters digits ↔
      (∀ character ∈ characters, character.isDigit = true ∨ character = '_') ∧
        digits = (characters.filter (· ≠ '_')).map digitNumber := by
  induction characters generalizing digits with
  | nil =>
      constructor
      · rintro ⟨⟩
        simp
      · rintro ⟨_, rfl⟩
        exact .nil
  | cons character rest induction =>
      rw [List.forall_mem_cons]
      by_cases skipped : character = '_'
      · subst skipped
        rw [spells_underscore_iff, induction]
        simp
      · rw [spells_cons_iff skipped]
        simp only [skipped, or_false, induction]
        constructor
        · rintro ⟨digit, digits, named, inside, ⟨decimal, equal⟩, rfl⟩
          have first := digitValue?_decimal_iff.mp ⟨named, inside⟩
          refine ⟨⟨first.1, decimal⟩, ?_⟩
          simp [skipped, first.2, equal]
        · rintro ⟨⟨first, decimal⟩, rfl⟩
          have named := digitValue?_decimal_iff.mpr ⟨first, rfl⟩
          refine ⟨_, _, named.1, named.2, ⟨decimal, rfl⟩, ?_⟩
          simp [skipped]

theorem read_decimal_iff {characters : List Char} {word : Word} :
    read 10 characters = .ok word ↔
      (∀ character ∈ characters, character.isDigit = true ∨ character = '_') ∧
        word.toNat = decimalNumber characters := by
  rw [read_ok_iff (by decide)]
  simp only [spells_decimal_iff]
  constructor
  · rintro ⟨digits, ⟨decimal, rfl⟩, number⟩
    exact ⟨decimal, number⟩
  · rintro ⟨decimal, number⟩
    exact ⟨_, ⟨decimal, rfl⟩, number⟩

/-! ## Writing -/

theorem spells_map {radix : Nat} (named : radix ≤ 36) {digits : List Nat}
    (inside : ∀ digit ∈ digits, digit < radix) :
    Spells radix (digits.map digitCharacter) digits := by
  induction digits with
  | nil => exact .nil
  | cons digit rest induction =>
      rw [List.forall_mem_cons] at inside
      apply Spells.digit
      · exact digitValue?_digitCharacter (Nat.lt_of_lt_of_le inside.1 named)
      · exact inside.1
      · exact induction inside.2

theorem decimal_digitCharacter {digit : Nat} (small : digit < 10) :
    (digitCharacter digit).isDigit = true ∧ digit = digitNumber (digitCharacter digit) :=
  digitValue?_decimal_iff.mp ⟨digitValue?_digitCharacter (by omega), small⟩

theorem isDigit_map {digits : List Nat} (small : ∀ digit ∈ digits, digit < 10) :
    ∀ character ∈ digits.map digitCharacter, character.isDigit = true := by
  intro character member
  rcases List.mem_map.mp member with ⟨digit, inside, equal⟩
  rw [← equal]
  exact (decimal_digitCharacter (small digit inside)).1

/-- The digits of a number, of which there is at least one. -/
theorem digits_eq_map {radix : Nat} (large : 1 < radix) (value : Nat) :
    ∃ values, digits radix value = values.map digitCharacter ∧ values ≠ [] ∧
      (∀ digit ∈ values, digit < radix) ∧ Nat.ofDigits radix values.reverse = value := by
  induction value using Nat.strong_induction_on with
  | h value induction =>
      by_cases small : value < radix
      · refine ⟨[value], digits_of_lt small, by simp, by simpa using small, by simp⟩
      · have more : radix ≤ value := Nat.le_of_not_lt small
        have smaller : value / radix < value := Nat.div_lt_self (by omega) large
        rcases induction (value / radix) smaller with ⟨values, equal, _, inside, number⟩
        refine ⟨values ++ [value % radix], ?_, by simp, ?_, ?_⟩
        · rw [digits_of_le large more, equal, List.map_append]
          rfl
        · intro digit member
          rcases List.mem_append.mp member with member | member
          · exact inside digit member
          · rw [List.mem_singleton.mp member]
            exact Nat.mod_lt value (by omega)
        · rw [List.reverse_append, List.reverse_singleton, List.singleton_append,
            Nat.ofDigits_cons, number]
          exact Nat.mod_add_div value radix

/-- What is written for a number that fits is read as that number. -/
theorem read_digits {radix value : Nat} (large : 1 < radix) (named : radix ≤ 36)
    (fits : value < 2 ^ 256) : read radix (digits radix value) = .ok (BitVec.ofNat 256 value) := by
  rcases digits_eq_map large value with ⟨values, equal, _, inside, number⟩
  rw [equal, read_ok_iff (Nat.lt_of_succ_lt large)]
  refine ⟨values, spells_map named inside, ?_⟩
  rw [number]
  exact Nat.mod_eq_of_lt fits

theorem isDigit_digits (value : Nat) : ∀ character ∈ digits 10 value, character.isDigit = true := by
  rcases digits_eq_map (by decide : 1 < 10) value with ⟨values, equal, _, small, _⟩
  rw [equal]
  exact isDigit_map small

theorem digits_ne_nil (value : Nat) : digits 10 value ≠ [] := by
  rcases digits_eq_map (by decide : 1 < 10) value with ⟨values, equal, filled, _, _⟩
  simpa [equal] using filled

/-- Only zero is written with a zero in front. -/
theorem head?_digits {value : Nat} (positive : 0 < value) :
    (digits 10 value).head? ≠ some '0' := by
  induction value using Nat.strong_induction_on with
  | h value induction =>
      by_cases small : value < 10
      · have all : ∀ digit : Fin 10, 0 < digit.val → digitCharacter digit.val ≠ '0' := by decide
        rw [digits_of_lt small]
        simpa using all ⟨value, small⟩ positive
      · have rest := induction (value / 10) (by omega) (by omega)
        rw [digits_of_le (by decide) (Nat.le_of_not_lt small),
          List.head?_append_of_ne_nil _ (digits_ne_nil _)]
        exact rest

theorem length_digits_le {radix width value : Nat} (large : 1 < radix) (some : 0 < width)
    (short : value < radix ^ width) : (digits radix value).length ≤ width := by
  induction width generalizing value with
  | zero => omega
  | succ width induction =>
      by_cases small : value < radix
      · simp [digits_of_lt small]
      · have more : radix ≤ value := Nat.le_of_not_lt small
        have further : 0 < width := by
          apply Nat.pos_of_ne_zero
          intro none
          rw [none, Nat.zero_add, pow_one] at short
          exact small short
        have shorter : value / radix < radix ^ width := by
          rw [Nat.div_lt_iff_lt_mul (by omega)]
          exact short
        have rest := induction further shorter
        simp [digits_of_le large more, rest]

end LockGateway.Numeral
