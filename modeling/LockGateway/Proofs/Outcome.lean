/-! Outcomes of two steps, of which the second only starts when the first has an answer. -/

namespace LockGateway.Outcome

variable {ε α β : Type} {outcome : Except ε α} {next : α → Except ε β}

theorem bind_eq_ok_iff {answer : β} :
    outcome >>= next = .ok answer ↔ ∃ found, outcome = .ok found ∧ next found = .ok answer := by
  cases outcome with
  | error error =>
      constructor
      · intro ends
        cases ends
      · rintro ⟨found, equal, _⟩
        cases equal
  | ok found =>
      constructor
      · intro ends
        exact ⟨found, rfl, ends⟩
      · rintro ⟨other, equal, ends⟩
        cases equal
        exact ends

theorem bind_eq_error_iff {error : ε} :
    outcome >>= next = .error error ↔
      outcome = .error error ∨ ∃ found, outcome = .ok found ∧ next found = .error error := by
  cases outcome with
  | error other =>
      constructor
      · intro ends
        cases ends
        exact .inl rfl
      · rintro (equal | ⟨found, equal, _⟩)
        · cases equal
          rfl
        · cases equal
  | ok found =>
      constructor
      · intro ends
        exact .inr ⟨found, rfl, ends⟩
      · rintro (equal | ⟨other, equal, ends⟩)
        · cases equal
        · cases equal
          exact ends

theorem mapError_eq_ok_iff {δ : Type} {name : ε → δ} {answer : α} :
    outcome.mapError name = .ok answer ↔ outcome = .ok answer := by
  cases outcome with
  | error error =>
      change Except.error (name error) = .ok answer ↔ _
      simp
  | ok found =>
      change Except.ok found = .ok answer ↔ _
      simp

theorem mapError_eq_error_iff {δ : Type} {name : ε → δ} {fault : δ} :
    outcome.mapError name = .error fault ↔
      ∃ error, outcome = .error error ∧ name error = fault := by
  cases outcome with
  | error error =>
      change Except.error (name error) = .error fault ↔ _
      simp
  | ok found =>
      change Except.ok found = .error fault ↔ _
      simp

end LockGateway.Outcome
