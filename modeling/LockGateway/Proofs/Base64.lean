import LockGateway.Base64

/-! Bytes in base 64 are read back as they were. A full group of four characters is three bytes,
and what fills up the last group is no character of the alphabet, so no group is taken for another
kind. -/

namespace LockGateway.Base64

variable {first second third fourth : Nat}

theorem sextet?_character {sextet : Nat} (small : sextet < 64) :
    sextet? (character sextet) = some sextet := by
  have named : ∀ sextet : Fin 64, sextet? (character sextet.val) = some sextet.val := by
    decide +kernel
  exact named ⟨sextet, small⟩

theorem character_ne_filler {sextet : Nat} (small : sextet < 64) : character sextet ≠ '=' := by
  have different : ∀ sextet : Fin 64, character sextet.val ≠ '=' := by
    decide +kernel
  exact different ⟨sextet, small⟩

/-! ## Groups -/

theorem decode_one (firstSmall : first < 64) (secondSmall : second < 64) :
    decode [character first, character second, '=', '='] =
      some [UInt8.ofNat (first * 4 + second / 16)] := by
  rw [decode, sextet?_character firstSmall, sextet?_character secondSmall]
  rfl

theorem decode_two (firstSmall : first < 64) (secondSmall : second < 64)
    (thirdSmall : third < 64) :
    decode [character first, character second, character third, '='] =
      some [UInt8.ofNat (first * 4 + second / 16),
        UInt8.ofNat (second % 16 * 16 + third / 4)] := by
  have unfilled := character_ne_filler thirdSmall
  rw [decode, sextet?_character firstSmall, sextet?_character secondSmall,
    sextet?_character thirdSmall]
  · rfl
  · exact unfilled

theorem decode_three (firstSmall : first < 64) (secondSmall : second < 64)
    (thirdSmall : third < 64) (fourthSmall : fourth < 64) (rest : List Char) :
    decode (character first :: character second :: character third :: character fourth :: rest) =
      (decode rest).map fun later => UInt8.ofNat (first * 4 + second / 16) ::
        UInt8.ofNat (second % 16 * 16 + third / 4) ::
        UInt8.ofNat (third % 4 * 64 + fourth) :: later := by
  have unfilled := character_ne_filler fourthSmall
  rw [decode, sextet?_character firstSmall, sextet?_character secondSmall,
    sextet?_character thirdSmall, sextet?_character fourthSmall]
  · cases decode rest with
    | none => rfl
    | some later => rfl
  · exact fun _ filled => absurd filled unfilled
  · exact fun filled => absurd filled unfilled

/-! ## Bytes -/

theorem ofNat_eq (byte : UInt8) {value : Nat} (same : value = byte.toNat) :
    UInt8.ofNat value = byte := by
  rw [same, UInt8.ofNat_toNat]

theorem decode_encode (bytes : List UInt8) : decode (encode bytes) = some bytes := by
  induction bytes using encode.induct with
  | case1 => rfl
  | case2 first =>
      have firstByte := first.toNat_lt
      rw [encode, decode_one (by omega) (by omega), ofNat_eq first (by omega)]
  | case3 first second =>
      have firstByte := first.toNat_lt
      have secondByte := second.toNat_lt
      rw [encode, decode_two (by omega) (by omega) (by omega), ofNat_eq first (by omega),
        ofNat_eq second (by omega)]
  | case4 first second third rest induction =>
      have firstByte := first.toNat_lt
      have secondByte := second.toNat_lt
      have thirdByte := third.toNat_lt
      rw [encode, decode_three (by omega) (by omega) (by omega) (by omega), induction,
        Option.map_some, ofNat_eq first (by omega), ofNat_eq second (by omega),
        ofNat_eq third (by omega)]

/-- The text of some bytes is read back as these bytes. -/
theorem decode_text (bytes : List UInt8) : decode (text bytes).toList = some bytes := by
  rw [text, String.toList_ofList, decode_encode]

end LockGateway.Base64
