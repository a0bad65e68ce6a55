import LockGateway.Proofs.Amount
import LockGateway.Proofs.Amount.Reading

/-! Which texts denote a number, and what an amount is read as if it does or does not. All
that stands before the point counts, and so many bytes behind it as the currency has places.
What is left behind them is not looked at. -/

namespace LockGateway

/-! ## Places -/

theorem Text.byteLength_append (characters more : List Char) :
    byteLength (characters ++ more) = byteLength characters + byteLength more := by
  induction characters with
  | nil => simp [byteLength]
  | cons first rest induction =>
      rw [List.cons_append, byteLength, byteLength, induction, Nat.add_assoc]

theorem Text.byteLength_single {characters : List Char}
    (single : ∀ character ∈ characters, character.utf8Size = 1) :
    byteLength characters = characters.length := by
  induction characters with
  | nil => rfl
  | cons first rest induction =>
      rw [List.forall_mem_cons] at single
      rw [byteLength, induction single.2, single.1, List.length_cons, Nat.add_comm]

theorem Text.byteLength_pos {characters : List Char} (some : characters ≠ []) :
    0 < byteLength characters := by
  cases characters with
  | nil => exact absurd rfl some
  | cons first rest =>
      have visible := first.utf8Size_pos
      rw [byteLength]
      omega

theorem Text.takeBytes_append (kept rest : List Char) :
    takeBytes (byteLength kept) (kept ++ rest) = some kept := by
  induction kept with
  | nil =>
      cases rest with
      | nil => rfl
      | cons first more => simp [takeBytes, byteLength]
  | cons first more induction =>
      have some := first.utf8Size_pos
      rw [List.cons_append, byteLength, takeBytes, if_neg (by omega), if_neg (by omega),
        Nat.add_sub_cancel_left, induction]
      rfl

theorem Text.takeBytes_some {count : Nat} {characters kept : List Char}
    (enough : count ≤ byteLength characters) (taken : takeBytes count characters = some kept) :
    ∃ rest, characters = kept ++ rest ∧ byteLength kept = count := by
  induction characters generalizing count kept with
  | nil =>
      cases taken
      exact ⟨[], rfl, by rw [byteLength] at enough ⊢; omega⟩
  | cons first more induction =>
      rw [takeBytes] at taken
      rw [byteLength] at enough
      by_cases start : count = 0
      · rw [if_pos start] at taken
        cases taken
        exact ⟨first :: more, rfl, start.symm⟩
      · rw [if_neg start] at taken
        by_cases inside : count < first.utf8Size
        · rw [if_pos inside] at taken
          cases taken
        · rw [if_neg inside, Option.map_eq_some_iff] at taken
          rcases taken with ⟨further, taken, equal⟩
          rcases induction (by omega) taken with ⟨rest, parts, length⟩
          refine ⟨rest, by rw [← equal, parts]; rfl, ?_⟩
          rw [← equal, byteLength, length]
          omega

namespace Amount

open Numeral

theorem splitAtPoint_whole {whole : List Char} (noPoint : '.' ∉ whole) :
    splitAtPoint whole = (whole, none) := by
  induction whole with
  | nil => rfl
  | cons first rest induction =>
      rw [List.mem_cons, not_or] at noPoint
      rw [splitAtPoint, if_neg (Ne.symm noPoint.1), induction noPoint.2]

theorem splitAtPoint_append {whole : List Char} (noPoint : '.' ∉ whole) (fraction : List Char) :
    splitAtPoint (whole ++ '.' :: fraction) = (whole, some fraction) := by
  induction whole with
  | nil => rfl
  | cons first rest induction =>
      rw [List.mem_cons, not_or] at noPoint
      rw [List.cons_append, splitAtPoint, if_neg (Ne.symm noPoint.1), induction noPoint.2]

/-- How an amount is cut: what counts of it, what is left unseen behind the places of the
currency, and the power of ten by which the rest is multiplied. -/
inductive CutAs (decimals : Nat) :
    (characters counted unseen : List Char) → (power : Nat) → Prop
  | whole {whole : List Char} (noPoint : '.' ∉ whole) : CutAs decimals whole whole [] decimals
  | short {whole fraction : List Char} (noPoint : '.' ∉ whole)
      (fits : Text.byteLength fraction ≤ decimals) :
      CutAs decimals (whole ++ '.' :: fraction) (whole ++ fraction) []
        (decimals - Text.byteLength fraction)
  | long {whole kept unseen : List Char} (noPoint : '.' ∉ whole)
      (full : Text.byteLength kept = decimals) (more : unseen ≠ []) :
      CutAs decimals (whole ++ '.' :: (kept ++ unseen)) (whole ++ kept) unseen 0

theorem scaledDigits_ok_iff {characters counted : List Char} {decimals power : Nat} :
    scaledDigits characters decimals = .ok (counted, power) ↔
      ∃ unseen, CutAs decimals characters counted unseen power := by
  constructor
  · intro scaled
    rw [scaledDigits] at scaled
    by_cases point : '.' ∈ characters
    · obtain ⟨whole, fraction, parts, noPoint⟩ := List.eq_append_cons_of_mem point
      simp only [parts, splitAtPoint_append noPoint, Option.getD_some] at scaled ⊢
      by_cases fits : Text.byteLength fraction ≤ decimals
      · rw [if_pos fits] at scaled
        cases scaled
        exact ⟨[], .short noPoint fits⟩
      · rw [if_neg fits] at scaled
        cases taken : Text.takeBytes decimals fraction with
        | none =>
            rw [taken] at scaled
            cases scaled
        | some kept =>
            rw [taken] at scaled
            cases scaled
            rcases Text.takeBytes_some (Nat.le_of_not_le fits) taken with ⟨unseen, equal, full⟩
            have more : unseen ≠ [] := by
              rintro rfl
              rw [List.append_nil] at equal
              exact fits (by rw [equal, full])
            rw [equal]
            exact ⟨unseen, .long noPoint full more⟩
    · rw [splitAtPoint_whole point] at scaled
      cases scaled
      simpa [Text.byteLength] using Exists.intro [] (CutAs.whole point)
  · rintro ⟨unseen, cut⟩
    cases cut with
    | whole noPoint => simp [scaledDigits, splitAtPoint_whole noPoint, Text.byteLength]
    | short noPoint fits => simp [scaledDigits, splitAtPoint_append noPoint, fits]
    | @long whole kept unseen noPoint full more =>
        have beyond : ¬ Text.byteLength (kept ++ unseen) ≤ decimals := by
          have some := Text.byteLength_pos more
          rw [Text.byteLength_append]
          omega
        have taken : Text.takeBytes decimals (kept ++ unseen) = some kept := by
          rw [← full, Text.takeBytes_append]
        simp [scaledDigits, splitAtPoint_append noPoint, beyond, taken]

/-- An amount of single bytes is not cut inside a character. -/
theorem exists_cut {characters : List Char}
    (single : ∀ character ∈ characters, character.utf8Size = 1) (decimals : Nat) :
    ∃ counted unseen power, CutAs decimals characters counted unseen power := by
  by_cases point : '.' ∈ characters
  · obtain ⟨whole, fraction, rfl, noPoint⟩ := List.eq_append_cons_of_mem point
    have places : ∀ character ∈ fraction, character.utf8Size = 1 :=
      fun character member => single character (by simp [member])
    by_cases fits : fraction.length ≤ decimals
    · exact ⟨_, _, _, .short noPoint (by rwa [Text.byteLength_single places])⟩
    · have kept : ∀ character ∈ fraction.take decimals, character.utf8Size = 1 :=
        fun character member => places character (List.mem_of_mem_take member)
      have full : Text.byteLength (fraction.take decimals) = decimals := by
        rw [Text.byteLength_single kept, List.length_take]
        omega
      have more : fraction.drop decimals ≠ [] := by
        rw [Ne, List.drop_eq_nil_iff]
        exact fits
      rw [← List.take_append_drop decimals fraction]
      exact ⟨_, _, _, .long noPoint full more⟩
  · exact ⟨_, _, _, .whole point⟩

/-! ## Texts that denote a number -/

/-- Decimal digits and underscores with at most one point, and at least one digit. -/
structure IsNumber (characters : List Char) : Prop where
  signs : ∀ character ∈ characters,
    character.isDigit = true ∨ character = '_' ∨ character = '.'
  point : characters.count '.' ≤ 1
  digit : ∃ character ∈ characters, character.isDigit = true

theorem IsNumber.single {characters : List Char} (number : IsNumber characters) :
    ∀ character ∈ characters, character.utf8Size = 1 := by
  intro character member
  rcases number.signs character member with decimal | skipped | point
  · exact utf8Size_decimal decimal
  · rw [skipped]
    rfl
  · rw [point]
    rfl

theorem isNumber_whole_iff {whole : List Char} (noPoint : '.' ∉ whole) :
    IsNumber whole ↔
      (∀ character ∈ whole, character.isDigit = true ∨ character = '_') ∧
        ∃ character ∈ whole, character.isDigit = true := by
  constructor
  · intro number
    refine ⟨?_, number.digit⟩
    intro character member
    rcases number.signs character member with decimal | skipped | point
    · exact .inl decimal
    · exact .inr skipped
    · exact absurd (point ▸ member) noPoint
  · rintro ⟨decimal, digit⟩
    refine ⟨?_, ?_, digit⟩
    · intro character member
      exact (decimal character member).imp_right .inl
    · rw [List.count_eq_zero.mpr noPoint]
      decide

theorem isNumber_pointed_iff {whole fraction : List Char} :
    IsNumber (whole ++ '.' :: fraction) ↔
      (∀ character ∈ whole ++ fraction, character.isDigit = true ∨ character = '_') ∧
        ∃ character ∈ whole ++ fraction, character.isDigit = true := by
  have points : (whole ++ '.' :: fraction).count '.' = (whole ++ fraction).count '.' + 1 := by
    simp [Nat.add_assoc]
  have signs {character : Char} : character ∈ whole ++ '.' :: fraction ↔
      character ∈ whole ++ fraction ∨ character = '.' := by
    simp
    tauto
  constructor
  · intro number
    have single := number.point
    have noPoint : '.' ∉ whole ++ fraction := List.count_eq_zero.mp (by omega)
    constructor
    · intro character member
      rcases number.signs character (signs.mpr (.inl member)) with decimal | skipped | point
      · exact .inl decimal
      · exact .inr skipped
      · exact absurd (point ▸ member) noPoint
    · rcases number.digit with ⟨character, member, digit⟩
      rcases signs.mp member with inside | point
      · exact ⟨character, inside, digit⟩
      · rw [point] at digit
        cases digit
  · rintro ⟨decimal, character, inside, digit⟩
    refine ⟨?_, ?_, character, signs.mpr (.inl inside), digit⟩
    · intro character member
      rcases signs.mp member with inside | point
      · exact (decimal character inside).imp_right .inl
      · exact .inr (.inr point)
    · have noPoint : '.' ∉ whole ++ fraction := by
        intro point
        rcases decimal '.' point with digit | skipped
        · cases digit
        · cases skipped
      rw [points, List.count_eq_zero.mpr noPoint]

/-- An amount denotes a number just if its point may be left out and digits remain. -/
theorem CutAs.isNumber_iff {decimals power : Nat} {characters counted unseen : List Char}
    (cut : CutAs decimals characters counted unseen power) :
    IsNumber characters ↔
      (∀ character ∈ counted ++ unseen, character.isDigit = true ∨ character = '_') ∧
        ∃ character ∈ counted ++ unseen, character.isDigit = true := by
  cases cut with
  | whole noPoint => rw [List.append_nil, isNumber_whole_iff noPoint]
  | short => rw [List.append_nil, isNumber_pointed_iff]
  | long => rw [List.append_assoc, isNumber_pointed_iff]

/-- Whatever counts or is left unseen stands in the amount. -/
theorem CutAs.mem {decimals power : Nat} {characters counted unseen : List Char}
    (cut : CutAs decimals characters counted unseen power) {character : Char}
    (member : character ∈ counted ++ unseen) : character ∈ characters := by
  cases cut with
  | whole => simpa using member
  | short =>
      simp only [List.append_nil, List.mem_append] at member
      simp only [List.mem_append, List.mem_cons]
      tauto
  | long =>
      simp only [List.mem_append] at member
      simp only [List.mem_append, List.mem_cons]
      tauto

/-- A sign at the beginning counts. -/
theorem CutAs.mem_of_head {decimals power : Nat} {characters counted unseen : List Char}
    (cut : CutAs decimals characters counted unseen power) {first : Char} (noPoint : first ≠ '.')
    (head : characters.head? = some first) : first ∈ counted := by
  have inWhole {whole rest : List Char} (head : (whole ++ '.' :: rest).head? = some first) :
      first ∈ whole := by
    cases whole with
    | nil =>
        cases head
        exact absurd rfl noPoint
    | cons other more =>
        cases head
        exact List.mem_cons_self
  cases cut with
  | whole => exact List.mem_of_head? head
  | short => exact List.mem_append_left _ (inWhole head)
  | long => exact List.mem_append_left _ (inWhole head)

/-! ## What is read -/

/-- All that counts of the amount is a number that fits. -/
structure CountsAs (amount : String) (decimals : Nat) (counted unseen : List Char) (power : Nat) :
    Prop where
  places : decimals ≤ greatestDecimals
  cut : CutAs decimals (Text.trimCharacters amount.toList) counted unseen power
  decimal : ∀ character ∈ counted, character.isDigit = true ∨ character = '_'
  fits : decimalNumber counted < 2 ^ 256

/-- An amount is read just if what counts of it is a number that fits, and as the product of
that number with the power of ten, which may go round. -/
theorem baseUnits_counts_iff {amount : String} {decimals : Nat} {units : Word} :
    baseUnits amount decimals = .ok units ↔
      ∃ counted unseen power, CountsAs amount decimals counted unseen power ∧
        units.toNat = decimalNumber counted * 10 ^ power % 2 ^ 256 := by
  rw [baseUnits_ok_iff]
  constructor
  · rintro ⟨counted, power, number, readAs, rfl⟩
    rcases scaledDigits_ok_iff.mp readAs.scaled with ⟨unseen, cut⟩
    rcases read_decimal_iff.mp readAs.read with ⟨decimal, equal⟩
    refine ⟨counted, unseen, power, ⟨readAs.places, cut, decimal, ?_⟩, ?_⟩
    · rw [← equal]
      exact number.isLt
    · rw [toNat_scaled, equal]
  · rintro ⟨counted, unseen, power, counts, equal⟩
    have unsigned : (Text.trimCharacters amount.toList).head? ≠ some '-' := by
      intro negative
      rcases counts.decimal '-' (counts.cut.mem_of_head (by decide) negative) with digit | skipped
      · cases digit
      · cases skipped
    have kept : (BitVec.ofNat 256 (decimalNumber counted)).toNat = decimalNumber counted :=
      Nat.mod_eq_of_lt counts.fits
    refine ⟨counted, power, BitVec.ofNat 256 (decimalNumber counted),
      ⟨counts.places, unsigned, scaledDigits_ok_iff.mpr ⟨unseen, counts.cut⟩,
        read_decimal_iff.mpr ⟨counts.decimal, kept⟩⟩, ?_⟩
    apply BitVec.eq_of_toNat_eq
    rw [toNat_scaled, kept, equal]

/-- Whatever is not read is refused, unless it is cut inside a character. -/
theorem baseUnits_refused_iff {amount : String} {decimals : Nat} :
    (∃ fault, baseUnits amount decimals = .error (.validation fault)) ↔
      (∀ units, baseUnits amount decimals ≠ .ok units) ∧ ¬ Splits amount decimals := by
  rw [← baseUnits_aborted_iff]
  cases read : toBaseUnits amount decimals with
  | ok units => simp [baseUnits, read, Except.mapError]
  | error fault => cases fault <;> simp [baseUnits, read, Except.mapError, GatewayError.ofAmount]

end Amount

end LockGateway
