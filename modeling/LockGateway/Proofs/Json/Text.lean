import LockGateway.Json.Parser
import LockGateway.Json.Printer
import LockGateway.Proofs.Numeral

/-! Scalars on their way as JSON text: what is written for a string or an integer is read as it
again, and what stands behind it is left. -/

namespace LockGateway.Json

/-! ## Strings -/

/-- The ways in which a character is written inside a string. -/
inductive EscapedAs : Char → List Char → Prop
  | plain {character : Char} (noQuote : character ≠ '"') (noEscape : character ≠ '\\')
      (visible : 0x20 ≤ character.toNat) : EscapedAs character [character]
  | short {character letter : Char} (named : simpleEscape? letter = some character) :
      EscapedAs character ['\\', letter]
  | code {character first second third fourth : Char}
      (unit : codeUnit? first second third fourth = some character.toNat)
      (control : character.toNat < 0x20) :
      EscapedAs character ['\\', 'u', first, second, third, fourth]

theorem codeUnit?_control {code : Nat} (control : code < 0x20) :
    codeUnit? '0' '0' (Numeral.digitCharacter (code / 16)) (Numeral.digitCharacter (code % 16)) =
      some code := by
  have all : ∀ code : Fin 0x20, codeUnit? '0' '0' (Numeral.digitCharacter (code.val / 16))
      (Numeral.digitCharacter (code.val % 16)) = some code.val := by
    decide
  exact all ⟨code, control⟩

theorem escapedAs_escape (character : Char) : EscapedAs character (escape character) := by
  rw [escape]
  by_cases quote : character = '"'
  · rw [if_pos quote, quote]
    exact .short rfl
  rw [if_neg quote]
  by_cases backslash : character = '\\'
  · rw [if_pos backslash, backslash]
    exact .short rfl
  rw [if_neg backslash]
  by_cases visible : 0x20 ≤ character.toNat
  · rw [if_pos visible]
    exact .plain quote backslash visible
  rw [if_neg visible]
  split
  · next equal => exact equal ▸ .short rfl
  split
  · next equal => exact equal ▸ .short rfl
  split
  · next equal => exact equal ▸ .short rfl
  split
  · next equal => exact equal ▸ .short rfl
  split
  · next equal => exact equal ▸ .short rfl
  have control : character.toNat < 0x20 := Nat.lt_of_not_le visible
  exact .code (codeUnit?_control control) control

theorem joinUnit_control {code : Nat} (control : code < 0x20) :
    joinUnit none code = some (some (Char.ofNat code), none) := by
  rw [joinUnit, if_neg (by omega), if_neg (by omega)]

/-- However a character is written, it is read as itself. -/
theorem readCharacters_escaped {character : Char} {written : List Char}
    (escaped : EscapedAs character written) (rest : List Char) :
    readCharacters none (written ++ rest) =
      (readCharacters none rest).map fun (characters, rest) => (character :: characters, rest) := by
  cases escaped with
  | plain noQuote noEscape visible =>
      have shown : ¬ (character = '\\' ∨ character.toNat < 0x20) := by
        rintro (escape | control)
        · exact noEscape escape
        · omega
      rw [List.singleton_append, readCharacters, if_neg shown]
      · exact noQuote
      · exact fun _ _ _ _ _ escape => absurd escape noEscape
      · exact fun _ _ escape => absurd escape noEscape
  | @short letter named =>
      have other : letter ≠ 'u' := by
        rintro rfl
        cases named
      rw [List.cons_append, List.singleton_append, readCharacters, named]
      · cases readCharacters none rest with
        | none => rfl
        | some read => rfl
      · exact fun _ _ _ _ _ unit => absurd unit other
  | code unit control =>
      rw [List.cons_append, List.cons_append, List.cons_append, List.cons_append, List.cons_append,
        List.singleton_append, readCharacters, unit]
      change (joinUnit none character.toNat >>= _) = _
      rw [joinUnit_control control, Char.ofNat_toNat]
      change ((readCharacters none rest) >>= _) = _
      cases readCharacters none rest with
      | none => rfl
      | some read => rfl

theorem readCharacters_escapes (characters rest : List Char) :
    readCharacters none (characters.flatMap escape ++ '"' :: rest) = some (characters, rest) := by
  induction characters with
  | nil => rw [List.flatMap_nil, List.nil_append, readCharacters]
  | cons character more induction =>
      rw [List.flatMap_cons, List.append_assoc, readCharacters_escaped (escapedAs_escape character),
        induction]
      rfl

theorem readString_quote (value : String) (rest : List Char) :
    readString (value.toList.flatMap escape ++ '"' :: rest) = some (value, rest) := by
  rw [readString, readCharacters_escapes]
  simp

/-! ## Integers -/

/-- What can stand behind a value: nothing, or a sign that ends it. -/
inductive Delimited : List Char → Prop
  | nothing : Delimited []
  | sign {sign : Char} {rest : List Char} (ends : sign = ',' ∨ sign = ']' ∨ sign = '\x7d') :
      Delimited (sign :: rest)

theorem spanDigits_append {digits rest : List Char}
    (decimal : ∀ character ∈ digits, character.isDigit = true) (delimited : Delimited rest) :
    spanDigits (digits ++ rest) = (digits, rest) := by
  have ended : rest.takeWhile Char.isDigit = [] ∧ rest.dropWhile Char.isDigit = rest := by
    cases delimited with
    | nothing => exact ⟨rfl, rfl⟩
    | sign ends =>
        rcases ends with rfl | rfl | rfl
        · exact ⟨rfl, rfl⟩
        · exact ⟨rfl, rfl⟩
        · exact ⟨rfl, rfl⟩
  rw [spanDigits, List.takeWhile_append_of_pos decimal, List.dropWhile_append_of_pos decimal,
    ended.1, ended.2, List.append_nil]

theorem digitsValue_digits (value : Nat) : digitsValue (Numeral.digits 10 value) = value := by
  induction value using Nat.strong_induction_on with
  | h value induction =>
      have last {digit : Nat} (small : digit < 10) :
          (Numeral.digitCharacter digit).toNat - 48 = digit :=
        (Numeral.decimal_digitCharacter small).2.symm
      by_cases small : value < 10
      · simp [Numeral.digits_of_lt small, digitsValue, last small]
      · have rest := induction (value / 10) (by omega)
        rw [digitsValue] at rest
        rw [Numeral.digits_of_le (by decide) (Nat.le_of_not_lt small), digitsValue,
          List.foldl_append, rest, List.foldl_cons, List.foldl_nil, last (Nat.mod_lt _ (by decide))]
        exact Nat.div_add_mod' value 10

theorem readSign_digits (value : Nat) (rest : List Char) :
    readSign (Numeral.digits 10 value ++ rest) = (false, Numeral.digits 10 value ++ rest) := by
  have decimal := Numeral.isDigit_digits value
  cases written : Numeral.digits 10 value with
  | nil => exact absurd written (Numeral.digits_ne_nil value)
  | cons first others =>
      rw [written] at decimal
      have unsigned : first ≠ '-' := by
        rintro rfl
        exact Bool.false_ne_true (decimal '-' List.mem_cons_self)
      rw [List.cons_append, readSign]
      exact fun _ equal => unsigned (List.cons.inj equal).1

theorem readFraction_delimited {rest : List Char} (delimited : Delimited rest) :
    readFraction rest = some (none, rest) := by
  cases delimited with
  | nothing => rfl
  | sign ends => rcases ends with rfl | rfl | rfl <;> rfl

theorem readPower_delimited {rest : List Char} (delimited : Delimited rest) :
    readPower rest = some (none, rest) := by
  cases delimited with
  | nothing => rfl
  | sign ends => rcases ends with rfl | rfl | rfl <;> rfl

/-- An integer as it is written. -/
def Literal.ofDigits (negative : Bool) (value : Nat) : Literal where
  negative
  whole := Numeral.digits 10 value
  fraction := []
  power := 0
  isInteger := true

theorem readLiteral_digits {input : List Char} {negative : Bool} {value : Nat} {rest : List Char}
    (signed : readSign input = (negative, Numeral.digits 10 value ++ rest))
    (delimited : Delimited rest) :
    readLiteral input = some (.ofDigits negative value, rest) := by
  have proper : ¬ ((Numeral.digits 10 value).isEmpty = true ∨
      ((Numeral.digits 10 value).head? = some '0' ∧ 1 < (Numeral.digits 10 value).length)) := by
    rintro (empty | ⟨zero, more⟩)
    · exact Numeral.digits_ne_nil value (List.isEmpty_iff.mp empty)
    · rcases Nat.eq_zero_or_pos value with none | positive
      · rw [none] at more
        exact absurd more (by decide)
      · exact Numeral.head?_digits positive zero
  rw [readLiteral]
  simp only [signed, spanDigits_append (Numeral.isDigit_digits value) delimited, if_neg proper]
  rw [readFraction_delimited delimited]
  simp only [Option.bind_eq_bind, Option.bind_some, readPower_delimited delimited]
  rfl

theorem value?_ofDigits {negative : Bool} {value : Nat} (number : Integer)
    (denoted : (if negative then -(value : Int) else value) = number.value)
    (proper : ¬ (negative = true ∧ value = 0)) :
    (Literal.ofDigits negative value).value? = some (.integer number) := by
  have integer : (Literal.ofDigits negative value).integer? = some number := by
    have bounds := And.intro number.atLeast number.below
    simp [Literal.integer?, Literal.ofDigits, digitsValue_digits, denoted, proper, bounds]
  rw [Literal.value?, integer]

theorem readNumber_digits {input : List Char} {negative : Bool} {value : Nat} {rest : List Char}
    (signed : readSign input = (negative, Numeral.digits 10 value ++ rest))
    (delimited : Delimited rest) (number : Integer)
    (denoted : (if negative then -(value : Int) else value) = number.value)
    (proper : ¬ (negative = true ∧ value = 0)) :
    readNumber input = some (.integer number, rest) := by
  rw [readNumber, readLiteral_digits signed delimited]
  change ((Literal.ofDigits negative value).value? >>= _) = _
  rw [value?_ofDigits number denoted proper]
  rfl

/-- An integer is read as it was written. -/
theorem readNumber_integerText (number : Integer) {rest : List Char} (delimited : Delimited rest) :
    readNumber (Double.integerText number.value ++ rest) = some (.integer number, rest) := by
  rw [Double.integerText]
  by_cases natural : 0 ≤ number.value
  · rw [if_pos natural]
    apply readNumber_digits (readSign_digits _ rest) delimited
    · simp [natural]
    · simp
  · rw [if_neg natural]
    have signed : readSign ('-' :: Numeral.digits 10 (-number.value).toNat ++ rest) =
        (true, Numeral.digits 10 (-number.value).toNat ++ rest) :=
      rfl
    apply readNumber_digits signed delimited
    · rw [if_pos rfl]
      omega
    · omega

end LockGateway.Json
