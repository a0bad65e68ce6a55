import LockGateway.Json.Value

/-! The order of the members of objects. Their keys ascend, whichever way an object is put
together, and members that ascend already are kept as they are. -/

namespace LockGateway.Json

/-- The keys stand in their order, each once. -/
def Ascending (members : List (String × Json)) : Prop :=
  members.Pairwise fun first second => first.1 < second.1

/-- Lists and objects are nested at most so many levels deep, and the members of objects are in
order. -/
inductive Within : (depth : Nat) → Json → Prop
  | null {depth : Nat} : Within depth .null
  | boolean {depth : Nat} (value : Bool) : Within depth (.boolean value)
  | integer {depth : Nat} (value : Integer) : Within depth (.integer value)
  | float {depth : Nat} (value : Double) : Within depth (.float value)
  | string {depth : Nat} (value : String) : Within depth (.string value)
  | list {depth : Nat} {elements : List Json}
      (within : ∀ element ∈ elements, Within depth element) : Within (depth + 1) (.list elements)
  | object {depth : Nat} {members : List (String × Json)} (ascending : Ascending members)
      (within : ∀ member ∈ members, Within depth member.2) : Within (depth + 1) (.object members)

variable {key : String} {value : Json} {members : List (String × Json)}

/-- A greater key comes last. -/
theorem insert_last (before : ∀ member ∈ members, member.1 < key) :
    insert key value members = members ++ [(key, value)] := by
  induction members with
  | nil => rfl
  | cons first rest induction =>
      rcases first with ⟨name, old⟩
      rw [List.forall_mem_cons] at before
      have different : key ≠ name := fun equal => String.lt_irrefl name (equal ▸ before.1)
      have notBefore : ¬ key < name := fun less =>
        String.lt_irrefl name (String.lt_trans before.1 less)
      rw [insert, if_neg different, if_neg notBefore, induction before.2]
      rfl

theorem sortMembers_ascending (ascending : Ascending members) : sortMembers members = members := by
  have kept (sorted : List (String × Json)) (ascending : Ascending (sorted ++ members)) :
      members.foldl (fun sorted member => insert member.1 member.2 sorted) sorted =
        sorted ++ members := by
    induction members generalizing sorted with
    | nil => simp
    | cons first rest induction =>
        rcases first with ⟨key, value⟩
        have before : ∀ member ∈ sorted, member.1 < key := fun member inside =>
          (List.pairwise_append.mp ascending).2.2 member inside (key, value) List.mem_cons_self
        have next := induction (List.pairwise_cons.mp (List.pairwise_append.mp ascending).2.1).2
          (sorted ++ [(key, value)]) (by simpa using ascending)
        change rest.foldl _ (insert key value sorted) = _
        rw [insert_last before, next]
        simp
  exact kept [] ascending

/-- Nothing but what is put in gets in. -/
theorem mem_insert {member : String × Json} (inside : member ∈ insert key value members) :
    member = (key, value) ∨ member ∈ members := by
  induction members with
  | nil => simpa [insert] using inside
  | cons first rest induction =>
      rcases first with ⟨name, old⟩
      rw [insert] at inside
      split at inside
      · rcases List.mem_cons.mp inside with equal | later
        · exact .inl equal
        · exact .inr (List.mem_cons_of_mem _ later)
      · split at inside
        · exact List.mem_cons.mp inside
        · rcases List.mem_cons.mp inside with equal | later
          · exact .inr (equal ▸ List.mem_cons_self)
          · exact (induction later).imp_right (List.mem_cons_of_mem _)

theorem ascending_insert (ascending : Ascending members) :
    Ascending (insert key value members) := by
  induction members with
  | nil => exact List.pairwise_singleton _ _
  | cons first rest induction =>
      rcases first with ⟨name, old⟩
      rcases List.pairwise_cons.mp ascending with ⟨least, restAscending⟩
      rw [insert]
      by_cases equal : key = name
      · rw [if_pos equal]
        refine List.pairwise_cons.mpr ⟨?_, restAscending⟩
        exact fun member inside => equal ▸ least member inside
      · rw [if_neg equal]
        by_cases before : key < name
        · rw [if_pos before]
          refine List.pairwise_cons.mpr ⟨?_, ascending⟩
          intro member inside
          rcases List.mem_cons.mp inside with first | later
          · rw [first]
            exact before
          · exact String.lt_trans before (least member later)
        · rw [if_neg before]
          refine List.pairwise_cons.mpr ⟨?_, induction restAscending⟩
          intro member inside
          rcases mem_insert inside with added | later
          · rw [added]
            exact Std.lt_of_le_of_ne (String.not_lt.mp before) (Ne.symm equal)
          · exact least member later

theorem ascending_sortMembers (members : List (String × Json)) :
    Ascending (sortMembers members) := by
  apply List.foldlRecOn members
  · exact List.Pairwise.nil
  · exact fun sorted ascending member _ => ascending_insert ascending

theorem mem_of_mem_sortMembers {member : String × Json} (inside : member ∈ sortMembers members) :
    member ∈ members := by
  have all : ∀ member ∈ sortMembers members, member ∈ members := by
    refine List.foldlRecOn (motive := fun sorted => ∀ member ∈ sorted, member ∈ members) members _
      ?_ ?_
    · exact fun member inside => absurd inside List.not_mem_nil
    · intro sorted all added source member inside
      rcases mem_insert inside with equal | earlier
      · exact equal ▸ source
      · exact all member earlier
  exact all member inside

end LockGateway.Json
