import LockGateway.Proofs.Hex
import LockGateway.Proofs.Quantity

/-! Quantities are read exactly or refused. What a value denotes is said here without the reader,
by the place of a digit among the digits and its place in the text. -/

namespace LockGateway

namespace Numeral

/-! ## Digits -/

/-- The digits below sixteen, each in the place that is its value. -/
def lowerDigits : List Char :=
  ['0', '1', '2', '3', '4', '5', '6', '7', '8', '9', 'a', 'b', 'c', 'd', 'e', 'f']

def upperDigits : List Char :=
  ['0', '1', '2', '3', '4', '5', '6', '7', '8', '9', 'A', 'B', 'C', 'D', 'E', 'F']

/-- The character stands for the digit, a letter in either case. -/
def StandsFor (radix : Nat) (character : Char) (digit : Nat) : Prop :=
  digit < radix ∧ (lowerDigits[digit]? = some character ∨ upperDigits[digit]? = some character)

instance (radix : Nat) (character : Char) (digit : Nat) :
    Decidable (StandsFor radix character digit) :=
  inferInstanceAs (Decidable (_ ∧ _))

example : StandsFor 16 'F' 15 ∧ StandsFor 16 'f' 15 ∧ ¬ StandsFor 10 'a' 10 := by decide

/-- The characters are digits of the radix that make the number. There may be zeros in front, and
underscores anywhere. No digits at all make zero. -/
def Writes (radix : Nat) (characters : List Char) (number : Nat) : Prop :=
  ∃ digits, List.Forall₂ (StandsFor radix) (characters.filter (· ≠ '_')) digits ∧
    number = Nat.ofDigits radix digits.reverse

theorem digitValue?_of_place {places : List Char} {character : Char} {digit : Nat}
    (values : places.map digitValue? = (List.range 16).map some)
    (place : places[digit]? = some character) : digitValue? character = some digit := by
  have found : ((List.range 16).map some)[digit]? = some (digitValue? character) := by
    rw [← values, List.getElem?_map, place, Option.map_some]
  have inside : digit < 16 := by
    simpa using (List.getElem?_eq_some_iff.mp found).1
  rw [List.getElem?_map, List.getElem?_range inside, Option.map_some, Option.some.injEq] at found
  exact found.symm

/-- Digits are ASCII characters, so they can be gone through. -/
theorem place_of_digitValue? {character : Char} {digit : Nat}
    (named : digitValue? character = some digit) (inside : digit < 16) :
    lowerDigits[digit]? = some character ∨ upperDigits[digit]? = some character := by
  have hexadecimal : Hex.digitValue? character = some digit := by
    rw [Hex.digitValue?, named, Option.filter_some, if_pos (by simpa using inside)]
  have all : ∀ code : Fin 128, ∀ digit ∈ Hex.digitValue? (Char.ofNat code.val),
      lowerDigits[digit]? = some (Char.ofNat code.val) ∨
        upperDigits[digit]? = some (Char.ofNat code.val) := by
    decide
  have place := all ⟨character.toNat, Nat.lt_succ_of_le (Hex.digit_ascii hexadecimal)⟩ digit
  rw [Char.ofNat_toNat] at place
  exact place hexadecimal

theorem standsFor_iff {radix : Nat} (small : radix ≤ 16) {character : Char} {digit : Nat} :
    StandsFor radix character digit ↔ digitValue? character = some digit ∧ digit < radix := by
  constructor
  · rintro ⟨inside, lower | upper⟩
    · exact ⟨digitValue?_of_place (by decide) lower, inside⟩
    · exact ⟨digitValue?_of_place (by decide) upper, inside⟩
  · rintro ⟨named, inside⟩
    exact ⟨inside, place_of_digitValue? named (Nat.lt_of_lt_of_le inside small)⟩

theorem spells_iff_standsFor {radix : Nat} (small : radix ≤ 16) {characters : List Char}
    {digits : List Nat} :
    Spells radix characters digits ↔
      List.Forall₂ (StandsFor radix) (characters.filter (· ≠ '_')) digits := by
  induction characters generalizing digits with
  | nil =>
      rw [List.filter_nil, List.forall₂_nil_left_iff]
      constructor
      · rintro ⟨⟩
        rfl
      · rintro rfl
        exact .nil
  | cons character rest induction =>
      by_cases skipped : character = '_'
      · subst skipped
        rw [spells_underscore_iff, induction]
        rfl
      · have kept : (character :: rest).filter (· ≠ '_') =
            character :: rest.filter (· ≠ '_') :=
          List.filter_cons_of_pos (by simpa using skipped)
        rw [spells_cons_iff skipped, kept, List.forall₂_cons_left_iff]
        simp only [standsFor_iff small, induction, and_assoc]

theorem writes_iff_spells {radix : Nat} (small : radix ≤ 16) {characters : List Char}
    {number : Nat} :
    Writes radix characters number ↔
      ∃ digits, Spells radix characters digits ∧ number = Nat.ofDigits radix digits.reverse := by
  simp only [Writes, spells_iff_standsFor small]

theorem read_ok_iff_writes {radix : Nat} (positive : 0 < radix) (small : radix ≤ 16)
    {characters : List Char} {word : Word} :
    read radix characters = .ok word ↔ Writes radix characters word.toNat := by
  rw [read_ok_iff positive, writes_iff_spells small]

/-- A number that does not fit is refused for just that, however many zeros stand in front. -/
theorem read_tooLarge {radix : Nat} (small : radix ≤ 16) {characters : List Char} {number : Nat}
    (writes : Writes radix characters number) (large : 2 ^ 256 ≤ number) :
    read radix characters = .error .tooLarge := by
  rcases (writes_iff_spells small).mp writes with ⟨digits, spells, rfl⟩
  apply readFrom_tooLarge spells (Nat.two_pow_pos 256)
  simpa [valueFrom] using large

/-- The digits in which a number is written. -/
theorem writes_digits {radix : Nat} (large : 1 < radix) (small : radix ≤ 16) (number : Nat) :
    Writes radix (digits radix number) number := by
  rcases digits_eq_map large number with ⟨values, equal, _, inside, made⟩
  rw [equal, writes_iff_spells small]
  exact ⟨values, spells_map (by omega) inside, made.symm⟩

theorem Writes.unmarked {characters : List Char} {number : Nat}
    (writes : Writes 10 characters number) :
    ∀ character ∈ characters, character ≠ 'x' ∧ character ≠ 'X' := by
  rcases (writes_iff_spells (by decide)).mp writes with ⟨digits, spells, _⟩
  intro character member
  have decimal := (spells_decimal_iff.mp spells).1 character member
  constructor
  all_goals
    rintro rfl
    rcases decimal with digit | skipped
    · cases digit
    · cases skipped

end Numeral

namespace Quantity

/-! ## What values denote -/

/-- A number that is not negative denotes itself. A text denotes what its digits make, which are
hexadecimal behind a mark and decimal without one. -/
inductive Denotes : Json → Nat → Prop
  | integer {integer : Json.Integer} {number : Nat} (same : integer.value = number) :
      Denotes (.integer integer) number
  | hexadecimal {text : String} {mark : Char} {digits : List Char} {number : Nat}
      (written : text.toList = '0' :: mark :: digits) (marked : mark = 'x' ∨ mark = 'X')
      (writes : Numeral.Writes 16 digits number) : Denotes (.string text) number
  | decimal {text : String} {number : Nat} (writes : Numeral.Writes 10 text.toList number) :
      Denotes (.string text) number

/-- The value is no text and no integer from zero on: it is negative, a floating-point number, as
every fraction is, or no number at all. -/
inductive NoQuantity : Json → Prop
  | negative {integer : Json.Integer} (below : integer.value < 0) : NoQuantity (.integer integer)
  | float (value : Double) : NoQuantity (.float value)
  | null : NoQuantity .null
  | boolean (value : Bool) : NoQuantity (.boolean value)
  | list (elements : List Json) : NoQuantity (.list elements)
  | object (members : List (String × Json)) : NoQuantity (.object members)

theorem denotes_string_iff {text : String} {number : Nat} :
    Denotes (.string text) number ↔
      Numeral.Writes (radixAndDigits text.toList).1 (radixAndDigits text.toList).2 number := by
  constructor
  · intro denotes
    cases denotes with
    | hexadecimal written marked writes =>
        rw [written]
        rcases marked with rfl | rfl
        · exact writes
        · exact writes
    | decimal writes =>
        rw [radixAndDigits_unmarked writes.unmarked]
        exact writes
  · intro writes
    unfold radixAndDigits at writes
    split at writes
    · rename_i digits written
      exact .hexadecimal written (.inl rfl) writes
    · rename_i digits written
      exact .hexadecimal written (.inr rfl) writes
    · exact .decimal writes

/-- The text in which a number is sent denotes it, also if it is too large to be read. -/
theorem denotes_text (number : Nat) : Denotes (.string (text number)) number := by
  apply Denotes.hexadecimal String.toList_ofList (.inl rfl)
  exact Numeral.writes_digits (by decide) (by decide) number

/-! ## What is read -/

theorem radix_bounds (characters : List Char) :
    0 < (radixAndDigits characters).1 ∧ (radixAndDigits characters).1 ≤ 16 := by
  unfold radixAndDigits
  split
  all_goals simp

theorem ofText_ok_iff {text : String} {word : Word} :
    ofText text = .ok word ↔ Denotes (.string text) word.toNat := by
  have bounds := radix_bounds text.toList
  rw [denotes_string_iff, ← Numeral.read_ok_iff_writes bounds.1 bounds.2]
  exact Outcome.mapError_eq_ok_iff

theorem ofText_tooLarge {text : String} {number : Nat} (denotes : Denotes (.string text) number)
    (large : 2 ^ 256 ≤ number) :
    ofText text = .error (.invalidResponse (.malformedQuantity text .tooLarge)) := by
  have refused := Numeral.read_tooLarge (radix_bounds text.toList).2
    (denotes_string_iff.mp denotes) large
  apply Outcome.mapError_eq_error_iff.mpr
  exact ⟨_, refused, rfl⟩

theorem ofJson_integer {integer : Json.Integer} (natural : 0 ≤ integer.value) :
    ofJson (.integer integer) = .ok (BitVec.ofNat 256 integer.value.toNat) := by
  have kept : (UInt64.ofNat integer.value.toNat).toNat = integer.value.toNat := by
    have below := integer.below
    exact UInt64.toNat_ofNat_of_lt' (by rw [UInt64.size]; omega)
  rw [ofJson, Json.uint64?, if_pos natural]
  dsimp only
  rw [kept]

theorem ofJson_negative {integer : Json.Integer} (below : integer.value < 0) :
    ofJson (.integer integer) = .error (.invalidResponse .notQuantity) := by
  rw [ofJson, Json.uint64?, if_neg (Int.not_le.mpr below)]
  rfl

theorem ofJson_noQuantity_iff {value : Json} :
    ofJson value = .error (.invalidResponse .notQuantity) ↔ NoQuantity value := by
  constructor
  · intro refused
    cases value with
    | integer integer =>
        by_cases natural : 0 ≤ integer.value
        · rw [ofJson_integer natural] at refused
          cases refused
        · exact .negative (Int.not_le.mp natural)
    | string text =>
        rcases Outcome.mapError_eq_error_iff.mp refused with ⟨fault, _, equal⟩
        cases equal
    | float value => exact .float value
    | null => exact .null
    | boolean value => exact .boolean value
    | list elements => exact .list elements
    | object members => exact .object members
  · intro none
    cases none with
    | negative below => exact ofJson_negative below
    | float | null | boolean | list | object => rfl

theorem ofJson_ok_iff {value : Json} {word : Word} :
    ofJson value = .ok word ↔ Denotes value word.toNat := by
  constructor
  · intro read
    cases value with
    | integer integer =>
        by_cases natural : 0 ≤ integer.value
        · rw [ofJson_integer natural] at read
          cases read
          have below := integer.below
          have kept : (BitVec.ofNat 256 integer.value.toNat).toNat = integer.value.toNat :=
            Nat.mod_eq_of_lt (by omega)
          apply Denotes.integer
          omega
        · rw [ofJson_negative (Int.not_le.mp natural)] at read
          cases read
    | string text => exact ofText_ok_iff.mp read
    | float | null | boolean | list | object => cases read
  · intro denotes
    cases value with
    | integer integer =>
        cases denotes with
        | integer same =>
            rw [ofJson_integer (by omega), same]
            simp
    | string text => exact ofText_ok_iff.mpr denotes
    | float | null | boolean | list | object => cases denotes

/-- Integers have 64 bits, so only a text can denote a number that does not fit a word. -/
theorem string_of_large {value : Json} {number : Nat} (denotes : Denotes value number)
    (large : 2 ^ 256 ≤ number) : ∃ text, value = .string text := by
  cases denotes with
  | @integer integer number same =>
      have below := integer.below
      omega
  | hexadecimal | decimal => exact ⟨_, rfl⟩

/-- A value is read just if it denotes a number that fits a word, and as that number. A text of a
number that does not fit is refused, as is every value that is neither a text nor an integer from
zero on, and whatever is refused is a response that makes no sense. What is read is kept as a
number of 64 bits just if it fits. -/
theorem exact_or_refused (value : Json) :
    (∀ word, ofJson value = .ok word ↔ Denotes value word.toNat) ∧
      (∀ number, Denotes value number → 2 ^ 256 ≤ number → ∃ text, value = .string text ∧
        ofJson value = .error (.invalidResponse (.malformedQuantity text .tooLarge))) ∧
      (ofJson value = .error (.invalidResponse .notQuantity) ↔ NoQuantity value) ∧
      (∀ error, ofJson value = .error error → ∃ fault, error = .invalidResponse fault) ∧
      ∀ word field number, toUInt64 word field = .ok number ↔
        word.toNat < 2 ^ 64 ∧ number.toNat = word.toNat := by
  refine ⟨fun word => ofJson_ok_iff, ?_, ofJson_noQuantity_iff, fun error => ofJson_error,
    fun word field number => toUInt64_ok_iff⟩
  intro number denotes large
  rcases string_of_large denotes large with ⟨text, rfl⟩
  exact ⟨text, rfl, ofText_tooLarge denotes large⟩

/-- Letters of both cases behind zeros are read, and the least number that does not fit is
refused. -/
theorem least_beyond_refused :
    ofJson (.string "0X00fFaB") = .ok 0xffab ∧ Denotes (.string (text (2 ^ 256))) (2 ^ 256) ∧
      ∃ written, .string (text (2 ^ 256)) = Json.string written ∧
        ofJson (.string (text (2 ^ 256))) =
          .error (.invalidResponse (.malformedQuantity written .tooLarge)) := by
  have writes : Numeral.Writes 16 ['0', '0', 'f', 'F', 'a', 'B'] 0xffab :=
    ⟨[0, 0, 15, 15, 10, 11], by decide, by decide⟩
  have denotes : Denotes (.string "0X00fFaB") (0xffab : Word).toNat :=
    .hexadecimal rfl (.inr rfl) writes
  have beyond := denotes_text (2 ^ 256)
  exact ⟨((exact_or_refused _).1 _).mpr denotes, beyond,
    (exact_or_refused _).2.1 _ beyond (Nat.le_refl _)⟩

end Quantity

end LockGateway
