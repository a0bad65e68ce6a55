import Mathlib.Algebra.Order.Floor.Semifield
import Mathlib.Data.List.TakeWhile
import Mathlib.Data.Rat.Floor
import LockGateway.Proofs.Amount.Number

/-! Decimal amounts, against the numbers that they denote. The digits that count are read
exactly or refused. What they make is then multiplied by the power of ten that is left, and
this product is kept modulo `2 ^ 256`: so an amount may be read as another one if it is the
power of ten that makes it too large. -/

namespace LockGateway.Amount

open Numeral

/-! ## Numbers that are denoted -/

/-- Decimal digits with at most one point, and at least one digit. -/
structure IsDecimal (characters : List Char) : Prop extends IsNumber characters where
  plain : '_' ∉ characters

/-- The number behind a point. -/
def fractionNumber : List Char → ℚ
  | [] => 0
  | character :: rest => (digitNumber character + fractionNumber rest) / 10

/-- The number that a decimal text denotes behind the digits already read. -/
def numberFrom (whole : Nat) : List Char → ℚ
  | [] => whole
  | character :: rest =>
      if character = '.' then whole + fractionNumber rest
      else numberFrom (whole * 10 + digitNumber character) rest

def denoted (amount : String) : ℚ := numberFrom 0 (Text.trimCharacters amount.toList)

/-- The amount in base units, rounded down. There is no bound on it. -/
def exactUnits (amount : String) (decimals : Nat) : Nat := ⌊denoted amount * 10 ^ decimals⌋₊

/-- The places behind the point that are written. -/
def places (characters : List Char) : Nat := (characters.dropWhile (· ≠ '.')).tail.length

/-- The amount with no more places than are written. -/
def writtenUnits (amount : String) (decimals : Nat) : Nat :=
  exactUnits amount (min decimals (places (Text.trimCharacters amount.toList)))

/-- Base units are those that the amount comes to, or it is refused. -/
structure ExactOrRefused (amount : String) (decimals : Nat) : Prop where
  exact (fits : exactUnits amount decimals < 2 ^ 256) :
    ∃ units, baseUnits amount decimals = .ok units ∧ units.toNat = exactUnits amount decimals
  refused (large : 2 ^ 256 ≤ exactUnits amount decimals) :
    ∃ fault, baseUnits amount decimals = .error (.validation fault)

/-! ## Digits and places -/

/-- The number of a text in which every character is a digit. -/
def plainNumber (characters : List Char) : Nat :=
  Nat.ofDigits 10 (characters.map digitNumber).reverse

theorem plainNumber_cons (first : Char) (rest : List Char) :
    plainNumber (first :: rest) = plainNumber rest + 10 ^ rest.length * digitNumber first := by
  rw [plainNumber, List.map_cons, Nat.ofDigits_reverse_cons, List.length_map]
  rfl

theorem plainNumber_append (characters more : List Char) :
    plainNumber (characters ++ more) =
      plainNumber characters * 10 ^ more.length + plainNumber more := by
  simp only [plainNumber, List.map_append, List.reverse_append, Nat.ofDigits_append,
    List.length_reverse, List.length_map]
  ring

theorem decimalNumber_plain {characters : List Char} (plain : '_' ∉ characters) :
    decimalNumber characters = plainNumber characters := by
  have all : characters.filter (· ≠ '_') = characters := by
    rw [List.filter_eq_self]
    intro character member
    have visible : character ≠ '_' := fun skipped => plain (skipped ▸ member)
    simpa using visible
  rw [decimalNumber, all, plainNumber]

theorem plainNumber_lt {characters : List Char}
    (digits : ∀ character ∈ characters, character.isDigit = true) :
    plainNumber characters < 10 ^ characters.length := by
  have bound := Nat.ofDigits_lt_base_pow_length (b := 10)
    (l := (characters.map digitNumber).reverse) (by decide) (by
      intro digit member
      rcases List.mem_map.mp (List.mem_reverse.mp member) with ⟨character, inside, equal⟩
      have decimal := isDigit_iff.mp (digits character inside)
      rw [← equal, digitNumber]
      omega)
  simpa [plainNumber] using bound

theorem fractionNumber_eq (fraction : List Char) :
    fractionNumber fraction = plainNumber fraction / 10 ^ fraction.length := by
  induction fraction with
  | nil => simp [fractionNumber, plainNumber]
  | cons first rest induction =>
      rw [fractionNumber, induction, plainNumber_cons, List.length_cons]
      push_cast
      field_simp
      ring

theorem numberFrom_whole {whole : List Char} (noPoint : '.' ∉ whole) (value : Nat) :
    numberFrom value whole = (value * 10 ^ whole.length + plainNumber whole : Nat) := by
  induction whole generalizing value with
  | nil => simp [numberFrom, plainNumber]
  | cons first rest induction =>
      rw [List.mem_cons, not_or] at noPoint
      rw [numberFrom, if_neg (Ne.symm noPoint.1), induction noPoint.2, plainNumber_cons,
        List.length_cons]
      congr 1
      ring

theorem numberFrom_pointed {whole : List Char} (noPoint : '.' ∉ whole) (fraction : List Char)
    (value : Nat) :
    numberFrom value (whole ++ '.' :: fraction) =
      (value * 10 ^ whole.length + plainNumber whole : Nat) + fractionNumber fraction := by
  induction whole generalizing value with
  | nil => simp [numberFrom, plainNumber]
  | cons first rest induction =>
      rw [List.mem_cons, not_or] at noPoint
      rw [List.cons_append, numberFrom, if_neg (Ne.symm noPoint.1), induction noPoint.2,
        plainNumber_cons, List.length_cons]
      congr 2
      ring

theorem places_whole {whole : List Char} (noPoint : '.' ∉ whole) : places whole = 0 := by
  have all : whole.dropWhile (· ≠ '.') = [] := by
    rw [List.dropWhile_eq_nil_iff]
    intro character member
    have visible : character ≠ '.' := fun point => noPoint (point ▸ member)
    simpa using visible
  rw [places, all]
  rfl

theorem places_pointed {whole : List Char} (noPoint : '.' ∉ whole) (fraction : List Char) :
    places (whole ++ '.' :: fraction) = fraction.length := by
  have point : (whole ++ '.' :: fraction).dropWhile (· ≠ '.') = '.' :: fraction := by
    rw [List.dropWhile_append_of_pos]
    · rfl
    · intro character member
      have visible : character ≠ '.' := fun point => noPoint (point ▸ member)
      simpa using visible
  rw [places, point]
  rfl

/-! ## Scaling -/

theorem floor_scaled (number places decimals : Nat) :
    ⌊(number / 10 ^ places : ℚ) * 10 ^ decimals⌋₊ = number * 10 ^ decimals / 10 ^ places := by
  rw [div_mul_eq_mul_div]
  exact_mod_cast Nat.floor_div_eq_div (K := ℚ) (number * 10 ^ decimals) (10 ^ places)

/-- Of a number with some digits behind the places, only those that count are left. -/
theorem scale_cut {number rest unseen places decimals power : Nat} (below : rest < 10 ^ unseen)
    (lengths : decimals + unseen = power + places) (one : power = 0 ∨ unseen = 0) :
    (number * 10 ^ unseen + rest) * 10 ^ decimals / 10 ^ places = number * 10 ^ power := by
  rcases one with rfl | rfl
  · have all : places = decimals + unseen := by omega
    rw [all, pow_add, Nat.mul_comm, Nat.mul_div_mul_left _ _ (Nat.pow_pos (by decide)),
      Nat.mul_comm number, Nat.mul_add_div (Nat.pow_pos (by decide)), Nat.div_eq_of_lt below]
    simp
  · have nothing : rest = 0 := by simpa using below
    have all : decimals = power + places := by omega
    rw [all, nothing, pow_add, ← Nat.mul_assoc, Nat.mul_div_cancel _ (Nat.pow_pos (by decide))]
    simp

/-! ## How a decimal amount is cut -/

section Cut

variable {characters counted unseen : List Char} {decimals power : Nat}

theorem CutAs.digits (cut : CutAs decimals characters counted unseen power)
    (decimal : IsDecimal characters) :
    ∀ character ∈ counted ++ unseen, character.isDigit = true := by
  intro character member
  have signs := (cut.isNumber_iff.mp decimal.toIsNumber).1 character member
  have visible : character ≠ '_' := fun skipped => decimal.plain (skipped ▸ cut.mem member)
  exact signs.resolve_right visible

/-- What is left unseen comes to less than one in the last place that counts. -/
theorem CutAs.unseen_lt (cut : CutAs decimals characters counted unseen power)
    (decimal : IsDecimal characters) : plainNumber unseen < 10 ^ unseen.length :=
  plainNumber_lt fun character member =>
    cut.digits decimal character (List.mem_append_right counted member)

/-- Places that count or are left unseen, and places that are missing. -/
theorem CutAs.lengths (cut : CutAs decimals characters counted unseen power)
    (decimal : IsDecimal characters) :
    decimals + unseen.length = power + places characters ∧ (power = 0 ∨ unseen.length = 0) := by
  have digits := cut.digits decimal
  -- The cut counts bytes, which are places because all of them are digits.
  cases cut with
  | whole noPoint => simp [places_whole noPoint]
  | @short whole fraction noPoint fits =>
      have single : Text.byteLength fraction = fraction.length :=
        Text.byteLength_single fun character member =>
          utf8Size_decimal (digits character (by simp [member]))
      rw [places_pointed noPoint]
      rw [single] at fits ⊢
      simp [fits]
  | @long whole kept unseen noPoint full more =>
      have single : Text.byteLength kept = kept.length :=
        Text.byteLength_single fun character member =>
          utf8Size_decimal (digits character (by simp [member]))
      rw [places_pointed noPoint, List.length_append]
      omega

theorem CutAs.numberFrom_eq (cut : CutAs decimals characters counted unseen power) :
    numberFrom 0 characters =
      (plainNumber (counted ++ unseen) / 10 ^ places characters : ℚ) := by
  have pointed {whole fraction : List Char} (noPoint : '.' ∉ whole) :
      numberFrom 0 (whole ++ '.' :: fraction) =
        (plainNumber (whole ++ fraction) / 10 ^ places (whole ++ '.' :: fraction) : ℚ) := by
    rw [numberFrom_pointed noPoint, places_pointed noPoint, fractionNumber_eq, plainNumber_append]
    push_cast
    field_simp
    simp
  cases cut with
  | whole noPoint =>
      rw [numberFrom_whole noPoint, places_whole noPoint, List.append_nil]
      simp
  | short noPoint => rw [pointed noPoint, List.append_nil]
  | long noPoint => rw [pointed noPoint, List.append_assoc]

end Cut

/-! ## What a decimal amount comes to -/

section Units

variable {amount : String} {counted unseen : List Char} {decimals power : Nat}

theorem exactUnits_eq (decimal : IsDecimal (Text.trimCharacters amount.toList))
    (cut : CutAs decimals (Text.trimCharacters amount.toList) counted unseen power) :
    exactUnits amount decimals = plainNumber counted * 10 ^ power := by
  rcases cut.lengths decimal with ⟨lengths, one⟩
  rw [exactUnits, denoted, cut.numberFrom_eq, floor_scaled, plainNumber_append]
  exact scale_cut (cut.unseen_lt decimal) lengths one

theorem writtenUnits_eq (decimal : IsDecimal (Text.trimCharacters amount.toList))
    (cut : CutAs decimals (Text.trimCharacters amount.toList) counted unseen power) :
    writtenUnits amount decimals = plainNumber counted := by
  rcases cut.lengths decimal with ⟨lengths, one⟩
  -- With as many places as are written nothing is missing, and the same is left unseen.
  have shorter : min decimals (places (Text.trimCharacters amount.toList)) + unseen.length =
      0 + places (Text.trimCharacters amount.toList) := by
    omega
  rw [writtenUnits, exactUnits, denoted, cut.numberFrom_eq, floor_scaled, plainNumber_append,
    scale_cut (cut.unseen_lt decimal) shorter (.inl rfl), pow_zero, Nat.mul_one]

theorem toBaseUnits_malformed {cause : Numeral.Fault} (few : decimals ≤ greatestDecimals)
    (unsigned : (Text.trimCharacters amount.toList).head? ≠ some '-')
    (scaled : scaledDigits (Text.trimCharacters amount.toList) decimals = .ok (counted, power))
    (unread : Numeral.read 10 counted = .error cause) :
    toBaseUnits amount decimals = .error (.malformed cause) := by
  rw [toBaseUnits, parseUnits, if_neg (Nat.not_lt.mpr few), scaled]
  refine (if_neg unsigned).trans ?_
  rw [unread]
  rfl

/-- The digits that count are read exactly, or refused. Their product with the power of ten
is cut off at the width of a word. -/
theorem baseUnits_decimal (few : decimals ≤ greatestDecimals)
    (decimal : IsDecimal (Text.trimCharacters amount.toList)) :
    baseUnits amount decimals =
      if writtenUnits amount decimals < 2 ^ 256 then
        .ok (BitVec.ofNat 256 (exactUnits amount decimals))
      else .error (.validation (.malformedAmount amount (.malformed .tooLarge))) := by
  rcases exists_cut decimal.single decimals with ⟨counted, unseen, power, cut⟩
  have digits := cut.digits decimal
  have clean : ∀ character ∈ counted, character.isDigit = true ∨ character = '_' :=
    fun character member => .inl (digits character (List.mem_append_left unseen member))
  have plain : '_' ∉ counted := fun skipped =>
    decimal.plain (cut.mem (List.mem_append_left unseen skipped))
  rw [writtenUnits_eq decimal cut, exactUnits_eq decimal cut, ← decimalNumber_plain plain]
  split
  case isTrue fits =>
    rw [baseUnits_counts_iff]
    exact ⟨counted, unseen, power, ⟨few, cut, clean, fits⟩, BitVec.toNat_ofNat _ _⟩
  case isFalse large =>
    have unsigned : (Text.trimCharacters amount.toList).head? ≠ some '-' := by
      intro negative
      cases digits '-' (List.mem_append_left unseen (cut.mem_of_head (by decide) negative))
    have spells := spells_decimal_iff.mpr ⟨clean, rfl⟩
    have unread : Numeral.read 10 counted = .error .tooLarge := by
      apply readFrom_tooLarge spells (Nat.two_pow_pos 256)
      simpa [valueFrom, decimalNumber] using large
    have malformed := toBaseUnits_malformed few unsigned (scaledDigits_ok_iff.mpr ⟨unseen, cut⟩)
      unread
    rw [baseUnits, malformed]
    rfl

theorem writtenUnits_le (decimal : IsDecimal (Text.trimCharacters amount.toList)) :
    writtenUnits amount decimals ≤ exactUnits amount decimals := by
  rcases exists_cut decimal.single decimals with ⟨counted, unseen, power, cut⟩
  rw [writtenUnits_eq decimal cut, exactUnits_eq decimal cut]
  exact Nat.le_mul_of_pos_right _ (Nat.pow_pos (by decide))

theorem exactOrRefused_iff (few : decimals ≤ greatestDecimals)
    (decimal : IsDecimal (Text.trimCharacters amount.toList)) :
    ExactOrRefused amount decimals ↔
      exactUnits amount decimals < 2 ^ 256 ∨ 2 ^ 256 ≤ writtenUnits amount decimals := by
  have read := baseUnits_decimal few decimal
  have least : writtenUnits amount decimals ≤ exactUnits amount decimals := writtenUnits_le decimal
  constructor
  · intro exactOrRefused
    by_contra round
    rw [not_or, Nat.not_lt, Nat.not_le] at round
    rcases exactOrRefused.refused round.1 with ⟨fault, refused⟩
    rw [read, if_pos round.2] at refused
    cases refused
  · rintro (fits | large)
    · have kept := Nat.mod_eq_of_lt fits
      rw [if_pos (Nat.lt_of_le_of_lt least fits)] at read
      exact ⟨fun _ => ⟨_, read, kept⟩, fun large => by omega⟩
    · rw [if_neg (Nat.not_lt.mpr large)] at read
      exact ⟨fun fits => by omega, fun _ => ⟨_, read⟩⟩

end Units

/-- What a decimal amount is read as. It is its base units, rounded down, or refused, unless
it is written with digits that fit a word and comes to more base units than fit: then it is
read modulo `2 ^ 256`. -/
theorem decimal_amount_read {amount : String} {decimals : Nat} (few : decimals ≤ greatestDecimals)
    (decimal : IsDecimal (Text.trimCharacters amount.toList)) :
    baseUnits amount decimals =
        (if writtenUnits amount decimals < 2 ^ 256 then
          .ok (BitVec.ofNat 256 (exactUnits amount decimals))
        else .error (.validation (.malformedAmount amount (.malformed .tooLarge)))) ∧
      (ExactOrRefused amount decimals ↔
        exactUnits amount decimals < 2 ^ 256 ∨ 2 ^ 256 ≤ writtenUnits amount decimals) :=
  ⟨baseUnits_decimal few decimal, exactOrRefused_iff few decimal⟩

theorem isDecimal_two : IsDecimal (Text.trimCharacters "2".toList) :=
  have trimmed : Text.trimCharacters "2".toList = ['2'] := by rfl
  { signs := by
      rw [trimmed, List.forall_mem_singleton]
      exact .inl rfl
    point := by
      rw [trimmed]
      decide
    digit := ⟨'2', by rw [trimmed]; exact List.mem_singleton_self _, rfl⟩
    plain := by
      rw [trimmed]
      decide }

/-- Two units of a currency with as many places as there can be. -/
theorem two_read :
    77 ≤ greatestDecimals ∧ IsDecimal (Text.trimCharacters "2".toList) ∧
      baseUnits "2" 77 =
        (if writtenUnits "2" 77 < 2 ^ 256 then .ok (BitVec.ofNat 256 (exactUnits "2" 77))
        else .error (.validation (.malformedAmount "2" (.malformed .tooLarge)))) ∧
      (ExactOrRefused "2" 77 ↔ exactUnits "2" 77 < 2 ^ 256 ∨ 2 ^ 256 ≤ writtenUnits "2" 77) :=
  have few : 77 ≤ greatestDecimals := by decide
  ⟨few, isDecimal_two, decimal_amount_read few isDecimal_two⟩

/-- They are read as fewer than one of them. -/
theorem two_goes_round :
    ¬ ∀ (amount : String) (decimals : Nat), decimals ≤ greatestDecimals →
      IsDecimal (Text.trimCharacters amount.toList) → ExactOrRefused amount decimals := by
  intro exactOrRefused
  have denotes : denoted "2" = (2 : Nat) := rfl
  have units : exactUnits "2" 77 = 2 * 10 ^ 77 := by
    rw [exactUnits, denotes]
    exact_mod_cast Nat.floor_natCast (R := ℚ) (2 * 10 ^ 77)
  have read : baseUnits "2" 77 = .ok (BitVec.ofNat 256 (2 * 10 ^ 77)) := rfl
  have large : 2 ^ 256 ≤ exactUnits "2" 77 := by
    rw [units]
    decide
  rcases (exactOrRefused "2" 77 (by decide) isDecimal_two).refused large with ⟨fault, refused⟩
  rw [read] at refused
  cases refused

end LockGateway.Amount
