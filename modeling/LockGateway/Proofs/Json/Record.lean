import LockGateway.Json.Record
import LockGateway.Proofs.Address
import LockGateway.Proofs.Json.Order
import Mathlib.Data.List.Basic

/-! Records that are written as objects, and what is read from them. A record is opened if each of
its fields accepts what stands under its name, whatever the order in which its members were
written. -/

namespace LockGateway.Json

variable {α : Type} {key : String} {value : Json} {members : List (String × Json)}

/-! ## Single values -/

theorem readInteger_ok {least bound whole : Int} {expected : String} {number : Integer}
    (value : number.value = whole) (atLeast : least ≤ whole) (below : whole < bound) :
    readInteger least bound expected (.integer number) = .ok whole := by
  subst value
  rw [readInteger, if_pos ⟨atLeast, below⟩]

theorem readUInt64_ofUInt64 (number : UInt64) : readUInt64 (.ofUInt64 number) = .ok number := by
  have below := number.toNat_lt
  have read : readInteger 0 18446744073709551616 "u64" (.ofUInt64 number) = .ok ↑number.toNat :=
    readInteger_ok rfl (by omega) (by omega)
  rw [readUInt64, read]
  change Except.ok (UInt64.ofNat (number.toNat : Int).toNat) = _
  rw [Int.toNat_natCast, UInt64.ofNat_toNat]

theorem readInt64_ofInt64 (number : Int64) : readInt64 (.ofInt64 number) = .ok number := by
  have least := number.le_toInt
  have below := number.toInt_lt
  have read : readInteger (-9223372036854775808) 9223372036854775808 "i64" (.ofInt64 number) =
      .ok number.toInt :=
    readInteger_ok rfl (by omega) (by omega)
  rw [readInt64, read]
  change Except.ok (Int64.ofInt number.toInt) = _
  rw [Int64.ofInt_toInt]

theorem readBytes_text (bytes : List UInt8) : readBytes (.string (Hex.text bytes)) = .ok bytes := by
  rw [readBytes, Hex.text, String.toList_ofList, Hex.decode_spells (Hex.spells_encode bytes)]
  rfl

theorem readOctets_text {size : Nat} (octets : Octets size) :
    readOctets size (.string octets.text) = .ok octets := by
  rw [readOctets, Octets.ofText, Octets.text, Hex.text, String.toList_ofList,
    Octets.read_spells (Hex.spells_encode octets.bytes)]
  rfl

/-- An option is read back if its content is, and is not taken for none. -/
theorem readOptional_ofOption {read : Json → Except Fault α} {write : α → Json}
    (reads : ∀ content, read (write content) = .ok content)
    (notNull : ∀ content, (write content).isNull = false) (option : Option α) :
    readOptional read (ofOption (option.map write)) = .ok option := by
  cases option with
  | none => rfl
  | some content =>
      have plain : readOptional read (write content) = (read (write content)).map some := by
        cases written : write content with
        | null =>
            have null := notNull content
            rw [written] at null
            cases null
        | boolean | integer | float | string | list | object => rfl
      rw [Option.map_some, ofOption, plain, reads]
      rfl

/-- Null is absence. -/
def present : Option Json → Option Json
  | some .null => none
  | other => other

theorem present_eq_self_iff {option : Option Json} :
    present option = option ↔ option ≠ some .null := by
  cases option with
  | none => simp [present]
  | some value => cases value <;> simp [present]

theorem present_ne_null (option : Option Json) : present option ≠ some .null := by
  cases option with
  | none => simp [present]
  | some value => cases value <;> simp [present]

theorem present_ofOption (option : Option Json) :
    present (some (ofOption option)) = present option := by
  cases option with
  | none => rfl
  | some value => rfl

theorem ofOption_present (option : Option Json) : ofOption (present option) = ofOption option := by
  cases option with
  | none => rfl
  | some value => cases value <;> rfl

theorem readOptional_readAny (value : Json) :
    readOptional readAny value = .ok (present (some value)) := by
  cases value <;> rfl

/-! ## Members -/

theorem lookup_sortMembers (key : String) (members : List (String × Json)) :
    lookup key (sortMembers members) = lookup key members.reverse := by
  induction members using List.reverseRecOn with
  | nil => rfl
  | append_singleton earlier last induction =>
      have sorted : sortMembers (earlier ++ [last]) =
          insert last.1 last.2 (sortMembers earlier) := by
        simp [sortMembers]
      rw [sorted, lookup_insert, induction, List.reverse_concat, lookup]

theorem lookup_of_mem (ascending : Ascending members) (inside : (key, value) ∈ members) :
    lookup key members = some value := by
  induction members with
  | nil => cases inside
  | cons first rest induction =>
      rcases List.pairwise_cons.mp ascending with ⟨least, restAscending⟩
      rcases List.mem_cons.mp inside with rfl | later
      · simp [lookup]
      · have different : first.1 ≠ key := fun equal =>
          String.lt_irrefl key (equal ▸ least (key, value) later)
        rw [lookup, if_neg different]
        exact induction restAscending later

/-! ## Fields -/

/-- If there is a member under the name of the field, the field accepts it. -/
def FieldShape.Accepts (members : List (String × Json)) (shape : FieldShape) : Prop :=
  ∀ value, lookup shape.name (sortMembers members) = some value → shape.accepts value = .ok ()

/-- What is read of a field once the members are in order. -/
def Field.Reads (field : Field α) (members : List (String × Json)) (answer : α) : Prop :=
  field.fetch (sortMembers members) = .ok answer

theorem checkMembers_ok {shapes : List FieldShape}
    (accepted : ∀ member ∈ members, ∀ shape ∈ shapes, shape.name = member.1 →
      shape.accepts member.2 = .ok ()) : checkMembers shapes members = .ok () := by
  induction members with
  | nil => rfl
  | cons first rest induction =>
      rcases List.forall_mem_cons.mp accepted with ⟨firstAccepted, restAccepted⟩
      rw [checkMembers]
      cases found : shapes.find? (·.name = first.1) with
      | none => exact induction restAccepted
      | some shape =>
          have named : shape.name = first.1 := by simpa using List.find?_some found
          have accepts := firstAccepted shape (List.mem_of_find?_eq_some found) named
          dsimp only
          rw [accepts]
          exact induction restAccepted

theorem openRecord_ofMembers (record : String) (members : List (String × Json))
    {shapes : List FieldShape} (accepted : shapes.Forall (·.Accepts members)) :
    openRecord record shapes (ofMembers members) = .ok (sortMembers members) := by
  have checked : checkMembers shapes (sortMembers members) = .ok () := by
    apply checkMembers_ok
    intro member inside shape known named
    apply List.forall_iff_forall_mem.mp accepted shape known
    rw [named]
    exact lookup_of_mem (ascending_sortMembers members) inside
  rw [ofMembers, openRecord, checked]
  rfl

namespace Field

variable {field : Field α} {answer : α}

/-- A field that may be left out, and whose value may be any at all. -/
theorem fetch_any {field : Field (Option Json)} (read : field.read = readOptional readAny)
    (absent : field.absent = some none) (members : List (String × Json)) :
    field.fetch members = .ok (present (lookup field.name members)) := by
  rw [fetch, absent, read]
  cases lookup field.name members with
  | none => rfl
  | some value => exact readOptional_readAny value

namespace Reads

theorem of_lookup (found : lookup field.name members.reverse = some value)
    (read : field.read value = .ok answer) : field.Reads members answer := by
  rw [Reads, fetch, lookup_sortMembers, found]
  exact read

theorem any {field : Field (Option Json)} {option : Option Json}
    (found : lookup field.name members.reverse = option)
    (read : field.read = readOptional readAny) (absent : field.absent = some none) :
    field.Reads members (present option) := by
  rw [Reads, fetch_any read absent, lookup_sortMembers, found]

/-- A field accepts what is read of it. -/
theorem accepts (reads : field.Reads members answer) : field.shape.Accepts members := by
  intro value found
  change lookup field.name (sortMembers members) = some value at found
  rw [Reads, fetch, found] at reads
  have read : field.read value = .ok answer := reads
  change (field.read value).map _ = _
  rw [read]
  rfl

end Reads

end Field

end LockGateway.Json
