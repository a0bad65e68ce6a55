import LockGateway.Proofs.Amount
import LockGateway.Proofs.Outcome
import LockGateway.Proofs.Gateway.Order

/-! What orders encode: a call of their kind, a fault in what they ask for, or nothing
at all if an amount is cut inside a character. -/

namespace LockGateway

variable {α : Type}

namespace Order

variable {unlock signer : Address} {version : ContractVersion} {call : ContractCall}

/-- Calls with an amount are built once something was checked and the amount is read. -/
theorem built_ok {check : Except GatewayError α} {amount : α → Except GatewayError Word}
    {build : α → Word → ContractCall}
    (built : (do
      let checked ← check
      let units ← amount checked
      return build checked units) = Except.ok call) :
    ∃ checked units, check = .ok checked ∧ amount checked = .ok units ∧
      call = build checked units := by
  rcases Outcome.bind_eq_ok_iff.mp built with ⟨checked, passed, built⟩
  rcases Outcome.bind_eq_ok_iff.mp built with ⟨units, read, built⟩
  cases built
  exact ⟨checked, units, passed, read, rfl⟩

theorem built_aborted_iff {check : Except GatewayError α}
    {amount : α → Except GatewayError Word} {build : α → Word → ContractCall}
    (checks : check ≠ .error .aborted) :
    (do
      let checked ← check
      let units ← amount checked
      return build checked units) = Except.error .aborted ↔
    ∃ checked, check = .ok checked ∧ amount checked = .error .aborted := by
  constructor
  · intro aborted
    rcases Outcome.bind_eq_error_iff.mp aborted with failed | ⟨checked, passed, aborted⟩
    · exact absurd failed checks
    · rcases Outcome.bind_eq_error_iff.mp aborted with failed | ⟨units, _, built⟩
      · exact ⟨checked, passed, failed⟩
      · cases built
  · rintro ⟨checked, passed, failed⟩
    apply Outcome.bind_eq_error_iff.mpr
    refine .inr ⟨checked, passed, ?_⟩
    exact Outcome.bind_eq_error_iff.mpr (.inl failed)

theorem encode_kind {order : Order} (encoded : order.encode unlock signer version = .ok call) :
    call.kind = order.kind := by
  cases order with
  | createLock parameters =>
      rcases built_ok encoded with ⟨_, units, _, _, equal⟩
      rw [equal]
      rfl
  | purchaseKey parameters =>
      rcases built_ok encoded with ⟨_, units, _, _, equal⟩
      rw [equal]
      rfl
  | withdraw parameters =>
      cases encoded
      rfl
  | partialWithdraw parameters =>
      rcases built_ok encoded with ⟨_, units, _, _, equal⟩
      rw [equal]
      rfl
  | updateKeyPrice parameters =>
      rcases built_ok encoded with ⟨_, units, _, _, equal⟩
      rw [equal]
      rfl

/-- The order has an amount that its version cuts inside a character, and no other
fault is found before that. -/
def Splits (version : ContractVersion) : Order → Prop
  | createLock parameters =>
      version.requireNative parameters.currency = .ok () ∧
        Amount.Splits parameters.keyPrice (version.decimals parameters.decimals)
  | purchaseKey parameters =>
      version.requireNative parameters.currency = .ok () ∧
        Amount.Splits parameters.keyPrice (version.decimals parameters.decimals)
  | withdraw _ => False
  | partialWithdraw parameters =>
      ∃ amount, parameters.amount = some amount ∧
        Amount.Splits amount (version.decimals parameters.decimals)
  | updateKeyPrice parameters =>
      version.requireNative parameters.currency = .ok () ∧
        Amount.Splits parameters.keyPrice (version.decimals parameters.decimals)

theorem requireNative_ne_aborted (version : ContractVersion) (currency : Option Address) :
    version.requireNative currency ≠ .error .aborted := by
  unfold ContractVersion.requireNative
  repeat' split
  all_goals simp

theorem requireAmount_ne_aborted (amount : Option String) :
    ContractVersion.requireAmount amount ≠ .error .aborted := by
  unfold ContractVersion.requireAmount
  repeat' split
  all_goals simp

/-- A blank amount has no fraction that could be cut. -/
theorem requireAmount_of_splits {amount : String} {decimals : Nat}
    (splits : Amount.Splits amount decimals) :
    ContractVersion.requireAmount (some amount) = .ok amount := by
  rcases splits with ⟨_, fraction, found, _⟩
  unfold ContractVersion.requireAmount
  cases trimmed : Text.trimCharacters amount.toList with
  | nil =>
      rw [trimmed] at found
      cases found
  | cons first rest => simp [trimmed]

theorem amount_of_requireAmount {named : Option String} {amount : String}
    (required : ContractVersion.requireAmount named = .ok amount) : named = some amount := by
  unfold ContractVersion.requireAmount at required
  cases named with
  | none => cases required
  | some text =>
      by_cases blank : (Text.trimCharacters text.toList).isEmpty
      · simp [blank] at required
      · simpa [blank] using required

theorem encode_aborted_iff (order : Order) :
    order.encode unlock signer version = .error .aborted ↔ order.Splits version := by
  have priced {build : Unit → Word → ContractCall} (currency : Option Address)
      (price : String) (decimals : Nat) :
      (do
        let checked ← version.requireNative currency
        let units ← Amount.baseUnits price decimals
        return build checked units) = Except.error .aborted ↔
      version.requireNative currency = .ok () ∧ Amount.Splits price decimals := by
    rw [built_aborted_iff (requireNative_ne_aborted version currency)]
    constructor
    · rintro ⟨_, native, aborted⟩
      exact ⟨native, Amount.baseUnits_aborted_iff.mp aborted⟩
    · rintro ⟨native, splits⟩
      exact ⟨(), native, Amount.baseUnits_aborted_iff.mpr splits⟩
  cases order with
  | createLock parameters => exact priced _ _ _
  | purchaseKey parameters => exact priced _ _ _
  | withdraw parameters =>
      constructor
      · intro aborted
        cases aborted
      · intro splits
        cases splits
  | partialWithdraw parameters =>
      refine (built_aborted_iff (requireAmount_ne_aborted parameters.amount)).trans ?_
      constructor
      · rintro ⟨amount, required, aborted⟩
        exact ⟨amount, amount_of_requireAmount required, Amount.baseUnits_aborted_iff.mp aborted⟩
      · rintro ⟨amount, named, splits⟩
        refine ⟨amount, ?_, Amount.baseUnits_aborted_iff.mpr splits⟩
        rw [named]
        exact requireAmount_of_splits splits
  | updateKeyPrice parameters => exact priced _ _ _

end Order

end LockGateway
