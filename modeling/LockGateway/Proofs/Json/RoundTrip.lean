import LockGateway.Proofs.Json.Reading
import LockGateway.Proofs.Json.Text

/-! The text of a value is read as that value, if values may be nested as deep. Floating-point
numbers are left out. -/

namespace LockGateway.Json

variable {α : Type}

/-! ## Starts -/

/-- The characters with which a number starts. -/
def StartsNumber (first : Char) : Prop := first = '-' ∨ first.isDigit = true

/-- The characters with which the text of a value can start. -/
inductive Opening : Char → Prop
  | sign {first : Char} (listed : first ∈ ['n', 't', 'f', '"', '[', '\x7b']) : Opening first
  | number {first : Char} (starts : StartsNumber first) : Opening first

theorem StartsNumber.ne {first other : Char} (starts : StartsNumber first) (noMinus : other ≠ '-')
    (noDigit : other.isDigit = false) : first ≠ other := by
  rintro rfl
  rcases starts with minus | decimal
  · exact noMinus minus
  · exact Bool.false_ne_true (noDigit.symm.trans decimal)

theorem Opening.ne {first other : Char} (opening : Opening first)
    (unlisted : other ∉ ['-', 'n', 't', 'f', '"', '[', '\x7b']) (noDigit : other.isDigit = false) :
    first ≠ other := by
  rw [List.mem_cons, not_or] at unlisted
  cases opening with
  | sign listed => exact fun equal => unlisted.2 (equal ▸ listed)
  | number starts => exact starts.ne unlisted.1 noDigit

theorem Opening.skipBlanks {first : Char} (opening : Opening first) (rest : List Char) :
    skipBlanks (first :: rest) = first :: rest := by
  have space : first ≠ ' ' := opening.ne (by decide) rfl
  have tab : first ≠ '\t' := opening.ne (by decide) rfl
  have lineFeed : first ≠ '\n' := opening.ne (by decide) rfl
  have carriage : first ≠ '\r' := opening.ne (by decide) rfl
  simp [Json.skipBlanks, space, tab, lineFeed, carriage]

theorem integerText_starts (value : Int) :
    ∃ first others, Double.integerText value = first :: others ∧ StartsNumber first := by
  rw [Double.integerText]
  by_cases natural : 0 ≤ value
  · rw [if_pos natural]
    have decimal := Numeral.isDigit_digits value.toNat
    cases written : Numeral.digits 10 value.toNat with
    | nil => exact absurd written (Numeral.digits_ne_nil _)
    | cons first others =>
        rw [written] at decimal
        exact ⟨first, others, rfl, .inr (decimal first List.mem_cons_self)⟩
  · rw [if_neg natural]
    exact ⟨'-', _, rfl, .inl rfl⟩

/-! ## Items -/

/-- The texts of items with commas between them. -/
def joined (write : α → List Char) : List α → List Char
  | [] => []
  | [last] => write last
  | first :: second :: rest => write first ++ ',' :: joined write (second :: rest)

def memberCharacters (member : String × Json) : List Char :=
  quote member.1 ++ ':' :: characters member.2

theorem elementsCharacters_eq (elements : List Json) :
    elementsCharacters elements = joined characters elements := by
  induction elements with
  | nil => rfl
  | cons first rest induction =>
      cases rest with
      | nil => rfl
      | cons second more => rw [elementsCharacters, joined, induction]

theorem membersCharacters_eq (members : List (String × Json)) :
    membersCharacters members = joined memberCharacters members := by
  induction members with
  | nil => rfl
  | cons first rest induction =>
      rcases first with ⟨key, value⟩
      cases rest with
      | nil => rfl
      | cons second more =>
          rw [membersCharacters, joined, induction, memberCharacters]

/-- A comma, or what closes a list or an object. -/
theorem skipBlanks_sign {sign : Char} (ends : sign = ',' ∨ sign = ']' ∨ sign = '\x7d')
    (rest : List Char) : skipBlanks (sign :: rest) = sign :: rest := by
  rcases ends with rfl | rfl | rfl <;> rfl

section Items

variable {item : Reader α} {write : α → List Char} {close : Char}

theorem readItems_last (closes : close = ']' ∨ close = '\x7d') {input rest : List Char} {last : α}
    (read : item input = some (last, close :: rest)) (count : Nat) :
    readItems item close (count + 1) input = some ([last], rest) := by
  rw [readItems, read]
  dsimp only [bind, Option.bind]
  rw [skipBlanks_sign (.inr closes)]
  exact if_pos rfl

theorem readItems_more (closes : close = ']' ∨ close = '\x7d') {input later rest : List Char}
    {first : α} {others : List α} {count : Nat} (read : item input = some (first, ',' :: later))
    (readOthers : readItems item close count later = some (others, rest)) :
    readItems item close (count + 1) input = some (first :: others, rest) := by
  have goesOn : ',' ≠ close := by
    rcases closes with rfl | rfl <;> decide
  rw [readItems, read]
  dsimp only [bind, Option.bind]
  rw [skipBlanks_sign (.inl rfl)]
  dsimp only
  rw [if_neg goesOn, if_pos rfl, readOthers]
  rfl

variable {items : List α}
  (reads : ∀ value ∈ items, ∀ rest, Delimited rest →
    item (write value ++ rest) = some (value, rest))

include reads in
theorem readItems_joined (closes : close = ']' ∨ close = '\x7d') (filled : items ≠ [])
    {count : Nat} (enough : items.length ≤ count) (rest : List Char) :
    readItems item close count (joined write items ++ close :: rest) = some (items, rest) := by
  induction items generalizing count with
  | nil => exact absurd rfl filled
  | cons first more induction =>
      rw [List.forall_mem_cons] at reads
      cases count with
      | zero => cases enough
      | succ count =>
          cases more with
          | nil => exact readItems_last closes (reads.1 _ (.sign (.inr closes))) count
          | cons second others =>
              have later := induction reads.2 (List.cons_ne_nil _ _) (Nat.le_of_succ_le_succ enough)
              rw [joined, List.append_assoc]
              exact readItems_more closes (reads.1 _ (.sign (.inl rfl))) later

theorem length_joined (filled : ∀ value ∈ items, write value ≠ []) :
    items.length ≤ (joined write items).length := by
  induction items with
  | nil => exact Nat.zero_le _
  | cons first rest induction =>
      rw [List.forall_mem_cons] at filled
      cases rest with
      | nil => exact List.length_pos_of_ne_nil filled.1
      | cons second more =>
          have later := induction filled.2
          rw [joined, List.length_append]
          simp only [List.length_cons] at later ⊢
          omega

include reads in
theorem readEnclosed_joined (closes : close = ']' ∨ close = '\x7d')
    (opens : ∀ value ∈ items, ∃ first others, write value = first :: others ∧ Opening first)
    (rest : List Char) :
    readEnclosed item close (joined write items ++ close :: rest) = some (items, rest) := by
  cases items with
  | nil =>
      rw [joined, List.nil_append, readEnclosed, skipBlanks_sign (.inr closes)]
      exact if_pos rfl
  | cons first more =>
      obtain ⟨character, others, written, opening⟩ := opens first List.mem_cons_self
      have different : character ≠ close := by
        rcases closes with rfl | rfl
        · exact opening.ne (by decide) rfl
        · exact opening.ne (by decide) rfl
      have starts : ∃ later, joined write (first :: more) = character :: later := by
        cases more with
        | nil => exact ⟨others, written⟩
        | cons second later => exact ⟨_, by rw [joined, written]; rfl⟩
      -- One item is tried for each character, which is often enough as no item is empty.
      have enough : (first :: more).length ≤ (joined write (first :: more)).length := by
        apply length_joined
        intro value member
        rcases opens value member with ⟨_, _, written, _⟩
        simp [written]
      have read (count : Nat) (fits : (first :: more).length ≤ count) :=
        readItems_joined reads closes (List.cons_ne_nil _ _) fits rest
      rcases starts with ⟨later, starts⟩
      rw [starts] at enough read ⊢
      rw [List.cons_append, readEnclosed, opening.skipBlanks]
      dsimp only
      rw [if_neg different]
      apply read
      simp only [List.length_cons, List.length_append] at enough ⊢
      omega

end Items

/-! ## Members -/

theorem readMember_memberCharacters {readValue : Reader Json} {member : String × Json}
    {rest : List Char} (read : readValue (member.2.characters ++ rest) = some (member.2, rest)) :
    readMember readValue (memberCharacters member ++ rest) = some (member, rest) := by
  have written : memberCharacters member ++ rest =
      '"' :: (member.1.toList.flatMap escape ++ '"' :: ':' :: (member.2.characters ++ rest)) := by
    simp [memberCharacters, quote]
  have opening : Opening '"' := .sign (by decide)
  rw [written, readMember, opening.skipBlanks]
  change (readString (member.1.toList.flatMap escape ++ '"' :: _) >>= _) = _
  rw [readString_quote]
  change (readValue (member.2.characters ++ rest) >>= _) = _
  rw [read]
  rfl

/-! ## Values -/

/-- There is no floating-point number in the value. -/
inductive FloatFree : Json → Prop
  | null : FloatFree .null
  | boolean (value : Bool) : FloatFree (.boolean value)
  | integer (value : Integer) : FloatFree (.integer value)
  | string (value : String) : FloatFree (.string value)
  | list {elements : List Json} (free : ∀ element ∈ elements, FloatFree element) :
      FloatFree (.list elements)
  | object {members : List (String × Json)} (free : ∀ member ∈ members, FloatFree member.2) :
      FloatFree (.object members)

theorem FloatFree.opening {value : Json} (free : FloatFree value) :
    ∃ first others, value.characters = first :: others ∧ Opening first := by
  cases free with
  | null => exact ⟨_, _, rfl, .sign (by decide)⟩
  | boolean value => cases value <;> exact ⟨_, _, rfl, .sign (by decide)⟩
  | integer value =>
      rcases integerText_starts value.value with ⟨first, others, written, starts⟩
      exact ⟨first, others, written, .number starts⟩
  | string value => exact ⟨_, _, rfl, .sign (by decide)⟩
  | list free => exact ⟨'[', _, by rw [characters]; rfl, .sign (by decide)⟩
  | object free => exact ⟨'\x7b', _, by rw [characters]; rfl, .sign (by decide)⟩

/-- What opens neither a list nor an object is read alike at every depth. -/
theorem readValue_scalar {first : Char} (opening : Opening first) (noList : first ≠ '[')
    (noObject : first ≠ '\x7b') (depth : Nat) (rest : List Char) :
    readValue depth (first :: rest) = readScalar (first :: rest) := by
  cases depth with
  | zero => rw [readValue, opening.skipBlanks]
  | succ depth =>
      rw [readValue, opening.skipBlanks]
      split
      · next equal => exact absurd (List.cons.inj equal).1 noList
      · next equal => exact absurd (List.cons.inj equal).1 noObject
      · rfl

/-- What starts like a number is one. -/
theorem readScalar_number {first : Char} (starts : StartsNumber first) (rest : List Char) :
    readScalar (first :: rest) = readNumber (first :: rest) := by
  unfold readScalar
  split
  · next equal => exact absurd (List.cons.inj equal).1 (starts.ne (by decide) rfl)
  · next equal => exact absurd (List.cons.inj equal).1 (starts.ne (by decide) rfl)
  · next equal => exact absurd (List.cons.inj equal).1 (starts.ne (by decide) rfl)
  · next equal => exact absurd (List.cons.inj equal).1 (starts.ne (by decide) rfl)
  · rfl

theorem readValue_integerText (depth : Nat) (number : Integer) {rest : List Char}
    (delimited : Delimited rest) :
    readValue depth (Double.integerText number.value ++ rest) = some (.integer number, rest) := by
  have read := readNumber_integerText number delimited
  rcases integerText_starts number.value with ⟨first, others, written, starts⟩
  have noList : first ≠ '[' := starts.ne (by decide) rfl
  have noObject : first ≠ '\x7b' := starts.ne (by decide) rfl
  rw [written, List.cons_append] at read ⊢
  rw [readValue_scalar (.number starts) noList noObject, readScalar_number starts, read]

/-- The text of a value is read as that value, and what stands behind it is left. -/
theorem readValue_characters {depth : Nat} {value : Json} (within : Within depth value)
    (free : FloatFree value) {rest : List Char} (delimited : Delimited rest) :
    readValue depth (value.characters ++ rest) = some (value, rest) := by
  -- The induction is on the nesting and not on the value: its depth is what the reader has left.
  induction within generalizing rest with
  | null =>
      change readValue _ ('n' :: 'u' :: 'l' :: 'l' :: rest) = _
      rw [readValue_scalar (.sign (by decide)) (by decide) (by decide)]
      rfl
  | boolean value =>
      cases value with
      | true =>
          change readValue _ ('t' :: 'r' :: 'u' :: 'e' :: rest) = _
          rw [readValue_scalar (.sign (by decide)) (by decide) (by decide)]
          rfl
      | false =>
          change readValue _ ('f' :: 'a' :: 'l' :: 's' :: 'e' :: rest) = _
          rw [readValue_scalar (.sign (by decide)) (by decide) (by decide)]
          rfl
  | integer value => exact readValue_integerText _ value delimited
  | float value => cases free
  | string value =>
      have written : (Json.string value).characters ++ rest =
          '"' :: (value.toList.flatMap escape ++ '"' :: rest) := by
        change quote value ++ rest = _
        simp [quote]
      rw [written, readValue_scalar (.sign (by decide)) (by decide) (by decide)]
      change (readString _).map _ = _
      rw [readString_quote]
      rfl
  | @list depth elements within induction =>
      cases free with
      | list free =>
          have written : (Json.list elements).characters ++ rest =
              '[' :: (joined characters elements ++ ']' :: rest) := by
            rw [characters, elementsCharacters_eq]
            simp
          have opening : Opening '[' := .sign (by decide)
          rw [written, readValue, opening.skipBlanks]
          change (readEnclosed (readValue depth) ']' _).map _ = _
          rw [readEnclosed_joined (fun value member rest delimited =>
              induction value member (free value member) delimited)
            (.inl rfl) (fun value member => (free value member).opening)]
          rfl
  | @object depth members ascending within induction =>
      cases free with
      | object free =>
          have written : (Json.object members).characters ++ rest =
              '\x7b' :: (joined memberCharacters members ++ '\x7d' :: rest) := by
            rw [characters, membersCharacters_eq]
            simp
          have opening : Opening '\x7b' := .sign (by decide)
          rw [written, readValue, opening.skipBlanks]
          change (readEnclosed (readMember (readValue depth)) '\x7d' _).map _ = _
          rw [readEnclosed_joined
            (fun member inside rest delimited =>
              readMember_memberCharacters (induction member inside (free member inside) delimited))
            (.inr rfl) (fun member inside => ⟨_, _, rfl, .sign (by decide)⟩)]
          change some (ofMembers members, rest) = _
          rw [ofMembers, sortMembers_ascending ascending]

/-- A value without floating-point numbers is read from its text just if it is not nested deeper
than values are read. -/
theorem parse_text_iff {value : Json} (free : FloatFree value) :
    parse value.text = some value ↔ Within greatestDepth value := by
  constructor
  · exact within_of_parse
  · intro within
    have read := readValue_characters within free .nothing
    rw [List.append_nil] at read
    rw [parse, text, String.toList_ofList, parseCharacters, read]
    rfl

end LockGateway.Json
