import LockGateway.Error
import LockGateway.Proofs.Numeral
import LockGateway.Proofs.Outcome
import LockGateway.Quantity

/-! Bytes on their way as hexadecimal text. What spells bytes, with digits of either case, is
read as those bytes, and what is written for bytes spells them. -/

namespace LockGateway

namespace Hex

/-- The characters are two digits for each of the bytes. -/
inductive Spells : List Char → List UInt8 → Prop
  | nil : Spells [] []
  | byte {first second : Char} {high low : Nat} {rest : List Char} {bytes : List UInt8}
      (highNamed : digitValue? first = some high) (lowNamed : digitValue? second = some low)
      (spells : Spells rest bytes) :
      Spells (first :: second :: rest) (UInt8.ofNat (high * 16 + low) :: bytes)

theorem decodeFrom_spells {characters : List Char} {bytes : List UInt8}
    (spells : Spells characters bytes) (position : Nat) :
    decodeFrom position characters = .ok bytes := by
  induction spells generalizing position with
  | nil => rfl
  | byte highNamed lowNamed spells induction =>
      rw [decodeFrom, highNamed, lowNamed]
      dsimp only
      rw [induction]
      rfl

theorem digit_ascii {character : Char} {digit : Nat} (named : digitValue? character = some digit) :
    character.toNat ≤ 127 := by
  rw [digitValue?, Option.filter_eq_some_iff, Numeral.digitValue?] at named
  have found := named.1
  split at found
  · omega
  · split at found
    · omega
    · split at found
      · omega
      · cases found

/-- Digits are single bytes. -/
theorem utf8Size_digit {character : Char} {digit : Nat}
    (named : digitValue? character = some digit) : character.utf8Size = 1 := by
  have small : character.val ≤ 127 := UInt32.le_iff_toNat_le.mpr (digit_ascii named)
  simp [Char.utf8Size, small]

/-- A letter is the same digit in either case. -/
theorem digitValue?_toUpper {character : Char} {digit : Nat}
    (named : digitValue? character = some digit) : digitValue? character.toUpper = some digit := by
  have same : ∀ code : Fin 128,
      digitValue? (Char.ofNat code.val).toUpper = digitValue? (Char.ofNat code.val) := by
    decide
  have equal := same ⟨character.toNat, Nat.lt_succ_of_le (digit_ascii named)⟩
  rw [Char.ofNat_toNat] at equal
  rw [equal, named]

theorem byteLength_spells {characters : List Char} {bytes : List UInt8}
    (spells : Spells characters bytes) : Text.byteLength characters = 2 * bytes.length := by
  induction spells with
  | nil => rfl
  | byte highNamed lowNamed spells induction =>
      simp only [Text.byteLength, utf8Size_digit highNamed, utf8Size_digit lowNamed, induction,
        List.length_cons]
      omega

/-- The prefix is taken off, since digits come in pairs. -/
theorem body_spells {digits : List Char} {bytes : List UInt8} (spells : Spells digits bytes) :
    body ('0' :: 'x' :: digits) = .ok digits := by
  have even : Text.byteLength ('0' :: 'x' :: digits) % 2 = 0 := by
    have zero : '0'.utf8Size = 1 := by decide
    have mark : 'x'.utf8Size = 1 := by decide
    rw [Text.byteLength, Text.byteLength, byteLength_spells spells, zero, mark]
    omega
  simp [body, even]

/-- A text with a prefix is read as the bytes that it spells. -/
theorem decode_spells {digits : List Char} {bytes : List UInt8} (spells : Spells digits bytes) :
    decode ('0' :: 'x' :: digits) = .ok bytes := by
  rw [decode, body_spells spells]
  exact decodeFrom_spells spells 0

/-- Only what spells bytes is read. -/
theorem spells_of_decodeFrom {characters : List Char} {bytes : List UInt8} {position : Nat}
    (decoded : decodeFrom position characters = .ok bytes) : Spells characters bytes := by
  induction position, characters using decodeFrom.induct generalizing bytes with
  | case1 position =>
      cases decoded
      exact .nil
  | case2 position last digit named =>
      rw [decodeFrom, named] at decoded
      cases decoded
  | case3 position last unnamed =>
      rw [decodeFrom, unnamed] at decoded
      cases decoded
  | case4 position first second rest unnamed =>
      rw [decodeFrom, unnamed] at decoded
      cases decoded
  | case5 position first second rest high named unnamed =>
      rw [decodeFrom, named, unnamed] at decoded
      cases decoded
  | case6 position first second rest high low lowNamed highNamed induction =>
      rw [decodeFrom, highNamed, lowNamed] at decoded
      rcases Outcome.bind_eq_ok_iff.mp decoded with ⟨others, read, equal⟩
      cases equal
      exact .byte highNamed lowNamed (induction read)

/-- Digits do not start with a prefix, since its mark is no digit. -/
theorem body_bare {digits : List Char} {bytes : List UInt8} (spells : Spells digits bytes) :
    body digits = .ok digits := by
  have even : ¬ Text.byteLength digits % 2 = 1 := by
    rw [byteLength_spells spells]
    omega
  unfold body
  rw [if_neg even]
  split
  · cases spells with
    | byte highNamed lowNamed spells => cases lowNamed
  · rfl

theorem decode_ok_iff {characters : List Char} {bytes : List UInt8} :
    decode characters = .ok bytes ↔ ∃ digits, Spells digits bytes ∧
      (characters = digits ∨ characters = '0' :: 'x' :: digits) := by
  constructor
  · intro decoded
    rcases Outcome.bind_eq_ok_iff.mp decoded with ⟨digits, found, decoded⟩
    refine ⟨digits, spells_of_decodeFrom decoded, ?_⟩
    unfold body at found
    split at found
    · cases found
    · split at found
      · cases found
        exact .inr rfl
      · cases found
        exact .inl rfl
  · rintro ⟨digits, spells, rfl | rfl⟩
    · rw [decode, body_bare spells]
      exact decodeFrom_spells spells 0
    · exact decode_spells spells

theorem spells_encode (bytes : List UInt8) : Spells (encode bytes) bytes := by
  induction bytes with
  | nil => exact .nil
  | cons byte rest induction =>
      have named {digit : Nat} (small : digit < 16) :
          digitValue? (Numeral.digitCharacter digit) = some digit := by
        simp [digitValue?, Numeral.digitValue?_digitCharacter (Nat.lt_trans small (by decide)),
          Option.filter, small]
      have bound := byte.toNat_lt
      have whole : UInt8.ofNat (byte.toNat / 16 * 16 + byte.toNat % 16) = byte := by
        rw [Nat.div_add_mod']
        exact UInt8.ofNat_toNat
      have spelled := Spells.byte (named (by omega : byte.toNat / 16 < 16))
        (named (by omega : byte.toNat % 16 < 16)) induction
      rw [whole] at spelled
      exact spelled

end Hex

/-- The value is a text of these bytes, two digits each behind the mark `0x`. -/
def Json.Carries (value : Json) (bytes : List UInt8) : Prop :=
  ∃ digits, value = .string (String.ofList ('0' :: 'x' :: digits)) ∧ Hex.Spells digits bytes

/-- The value is a text of these bytes, two digits each, with or without the mark `0x`. -/
def Json.IsHexData (value : Json) (bytes : List UInt8) : Prop :=
  ∃ text digits, value = .string text ∧ Hex.Spells digits bytes ∧
    (text.toList = digits ∨ text.toList = '0' :: 'x' :: digits)

/-- Nothing but hex data is read, and as the bytes that it spells. -/
theorem readHexData_ok_iff {value : Json} {bytes : List UInt8} :
    readHexData value = .ok bytes ↔ value.IsHexData bytes := by
  cases value with
  | string text =>
      change (Hex.decode text.toList).mapError _ = _ ↔ _
      rw [Outcome.mapError_eq_ok_iff, Hex.decode_ok_iff]
      constructor
      · rintro ⟨digits, spells, written⟩
        exact ⟨text, digits, rfl, spells, written⟩
      · rintro ⟨_, digits, ⟨⟩, spells, written⟩
        exact ⟨digits, spells, written⟩
  | null | boolean | integer | float | list | object =>
      constructor
      · intro read
        cases read
      · rintro ⟨_, _, equal, _⟩
        cases equal

/-- What is no hex data is a response that makes no sense. -/
theorem readHexData_error {value : Json} {error : GatewayError}
    (failed : readHexData value = .error error) : ∃ cause, error = .invalidResponse cause := by
  rw [readHexData] at failed
  cases text : value.string? with
  | none =>
      rw [text] at failed
      cases failed
      exact ⟨_, rfl⟩
  | some text =>
      rw [text] at failed
      rcases Outcome.mapError_eq_error_iff.mp failed with ⟨fault, _, equal⟩
      exact ⟨_, equal.symm⟩

theorem Json.Carries.isHexData {value : Json} {bytes : List UInt8} (carries : value.Carries bytes) :
    value.IsHexData bytes := by
  rcases carries with ⟨digits, equal, spells⟩
  exact ⟨_, digits, equal, spells, .inr String.toList_ofList⟩

theorem readHexData_carries {value : Json} {bytes : List UInt8} (carries : value.Carries bytes) :
    readHexData value = .ok bytes :=
  readHexData_ok_iff.mpr carries.isHexData

/-- What is written for bytes carries them. -/
theorem Json.carries_text (bytes : List UInt8) : (Json.string (Hex.text bytes)).Carries bytes :=
  ⟨Hex.encode bytes, rfl, Hex.spells_encode bytes⟩

end LockGateway
