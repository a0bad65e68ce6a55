import LockGateway.Json.Parser
import LockGateway.Proofs.Json.Order

/-! What can be read. Every value that is read has the members of its objects in order, and is
nested no deeper than the reader goes. -/

namespace LockGateway.Json

variable {α : Type} {item : Reader α} {close : Char} {items : List α}

/-- Every item was read by itself. -/
theorem read_of_mem_readItems {count : Nat} {input rest : List Char}
    (read : readItems item close count input = some (items, rest)) :
    ∀ value ∈ items, ∃ before after, item before = some (value, after) := by
  induction count generalizing input items with
  | zero => cases read
  | succ count induction =>
      rw [readItems] at read
      rcases Option.bind_eq_some_iff.mp read with ⟨⟨first, later⟩, readFirst, read⟩
      have head : ∃ before after, item before = some (first, after) := ⟨_, _, readFirst⟩
      dsimp only at read
      split at read
      · cases read
      · split at read
        · cases read
          simpa using head
        · split at read
          · rcases Option.bind_eq_some_iff.mp read with ⟨⟨others, rest⟩, readOthers, equal⟩
            cases equal
            exact List.forall_mem_cons.mpr ⟨head, induction readOthers⟩
          · cases read

theorem read_of_mem_readEnclosed {input rest : List Char}
    (read : readEnclosed item close input = some (items, rest)) :
    ∀ value ∈ items, ∃ before after, item before = some (value, after) := by
  rw [readEnclosed] at read
  split at read
  · cases read
  · split at read
    · cases read
      simp
    · exact read_of_mem_readItems read

theorem read_of_readMember {readValue : Reader Json} {member : String × Json}
    {input rest : List Char} (read : readMember readValue input = some (member, rest)) :
    ∃ before after, readValue before = some (member.2, after) := by
  unfold readMember at read
  split at read
  · rcases Option.bind_eq_some_iff.mp read with ⟨⟨key, later⟩, _, read⟩
    dsimp only at read
    split at read
    · rcases Option.bind_eq_some_iff.mp read with ⟨⟨value, last⟩, readValue, equal⟩
      cases equal
      exact ⟨_, _, readValue⟩
    · cases read
  · cases read

theorem within_of_readNumber {value : Json} {input rest : List Char}
    (read : readNumber input = some (value, rest)) (depth : Nat) : Within depth value := by
  rcases Option.bind_eq_some_iff.mp read with ⟨⟨literal, later⟩, _, read⟩
  rcases Option.bind_eq_some_iff.mp read with ⟨number, denoted, equal⟩
  cases equal
  rw [Literal.value?] at denoted
  split at denoted
  · cases denoted
    exact .integer _
  · rcases Option.map_eq_some_iff.mp denoted with ⟨double, _, equal⟩
    rw [← equal]
    exact .float double

/-- A scalar has no levels. -/
theorem within_of_readScalar {value : Json} {input rest : List Char}
    (read : readScalar input = some (value, rest)) (depth : Nat) : Within depth value := by
  unfold readScalar at read
  split at read
  · cases read
    exact .null
  · cases read
    exact .boolean true
  · cases read
    exact .boolean false
  · rcases Option.map_eq_some_iff.mp read with ⟨text, _, equal⟩
    cases equal
    exact .string _
  · exact within_of_readNumber read depth

theorem within_of_readValue {depth : Nat} {value : Json} {input rest : List Char}
    (read : readValue depth input = some (value, rest)) : Within depth value := by
  induction depth generalizing value input rest with
  | zero => exact within_of_readScalar read 0
  | succ depth induction =>
      rw [readValue] at read
      split at read
      · rcases Option.map_eq_some_iff.mp read with ⟨⟨elements, later⟩, readElements, equal⟩
        cases equal
        apply Within.list
        intro element member
        rcases read_of_mem_readEnclosed readElements element member with ⟨before, after, read⟩
        exact induction read
      · rcases Option.map_eq_some_iff.mp read with ⟨⟨members, later⟩, readMembers, equal⟩
        cases equal
        apply Within.object (ascending_sortMembers members)
        intro member inside
        rcases read_of_mem_readEnclosed readMembers member (mem_of_mem_sortMembers inside) with
          ⟨before, after, readOne⟩
        rcases read_of_readMember readOne with ⟨before, after, read⟩
        exact induction read
      · exact within_of_readScalar read _

/-- Every value that is read is within what can be written and read again. -/
theorem within_of_parse {source : String} {value : Json} (read : parse source = some value) :
    Within greatestDepth value := by
  rcases Option.bind_eq_some_iff.mp read with ⟨⟨found, rest⟩, readFound, ended⟩
  dsimp only at ended
  split at ended
  · cases ended
    exact within_of_readValue readFound
  · cases ended

end LockGateway.Json
