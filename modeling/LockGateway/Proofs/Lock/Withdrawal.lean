import LockGateway.Proofs.Abi.Slots
import LockGateway.Proofs.Amount.Reading
import LockGateway.Proofs.Gateway.Encoding

/-! Partial and full withdrawals. Before version ten they are calls of different methods.
In version ten they are calls of one method, and a partial withdrawal of an amount that
comes to nothing is the call of a full one. -/

namespace LockGateway

open Abi

/-- The amount of a partial withdrawal comes to nothing. -/
def WithdrawParameters.Vanishes (version : ContractVersion) (parameters : WithdrawParameters) :
    Prop :=
  ∃ amount, parameters.amount = some amount ∧
    Amount.Vanishes amount (version.decimals parameters.decimals)

namespace ContractVersion

variable {version : ContractVersion} {named others : WithdrawParameters} {part whole : ContractCall}

/-- The data of a withdrawal of some amount, in base units. -/
def withdrawalData (version : ContractVersion) (currency : Option Address) (units : Word) :
    List UInt8 :=
  match version with
  | v0 | v01 | v02 => Method.partialWithdraw.call [.uint units]
  | v10 => Method.withdrawToken.call [.address (tokenOrNative currency), .uint units]

theorem partialWithdrawFromLock_data (accepted : version.partialWithdrawFromLock named = .ok part) :
    ∃ units, part.data = version.withdrawalData named.currency units ∧
      (units = 0 ↔ named.Vanishes version) := by
  rcases Order.built_ok accepted with ⟨amount, units, required, read, equal⟩
  have given := Order.amount_of_requireAmount required
  refine ⟨units, by rw [equal]; rfl, ?_⟩
  rw [Amount.baseUnits_zero_iff read, WithdrawParameters.Vanishes, given]
  simp

theorem tokenWithdrawal_slots (currency : Option Address) (units : Word) :
    slot? ((withdrawalData .v10 currency units).drop 4) 0 =
        some (addressBytes (tokenOrNative currency)) ∧
      slot? ((withdrawalData .v10 currency units).drop 4) slotSize = some (wordBytes units) :=
  ⟨Method.withdrawToken.slot?_call 0 rfl rfl, Method.withdrawToken.slot?_call 1 rfl rfl⟩

theorem tokenWithdrawal_inj {currency other : Option Address} {units otherUnits : Word} :
    withdrawalData .v10 currency units = withdrawalData .v10 other otherUnits ↔
      tokenOrNative currency = tokenOrNative other ∧ units = otherUnits := by
  constructor
  · intro same
    have first := tokenWithdrawal_slots currency units
    have second := tokenWithdrawal_slots other otherUnits
    rw [same] at first
    have token := first.1.symm.trans second.1
    have amount := first.2.symm.trans second.2
    exact ⟨addressBytes_injective (Option.some.inj token),
      wordBytes_injective (Option.some.inj amount)⟩
  · intro same
    rw [withdrawalData, withdrawalData, same.1, same.2]

/-- Before version ten the two calls are not even of one length. -/
theorem withdrawalData_ne (older : version ≠ .v10) (currency : Option Address) (units : Word)
    (withdrawn : version.withdrawFromLock others = .ok whole) :
    version.withdrawalData currency units ≠ whole.data := by
  have shorter : whole.data = Method.withdraw.call [] := by
    cases version with
    | v10 => exact absurd rfl older
    | v0 | v01 | v02 =>
        cases withdrawn
        rfl
  have longer : version.withdrawalData currency units =
      Method.partialWithdraw.call [.uint units] := by
    cases version with
    | v10 => exact absurd rfl older
    | v0 | v01 | v02 => rfl
  intro same
  rw [shorter, longer] at same
  have lengths := congrArg List.length same
  simp [Signature.length_call, encode, layOut, slotSize] at lengths

/-- A partial withdrawal that is accepted is the call of a full one just if the version is
ten, both are of one currency, and the amount comes to nothing. Only such an amount is
written as zero. -/
theorem withdrawals_agree_iff (accepted : version.partialWithdrawFromLock named = .ok part)
    (withdrawn : version.withdrawFromLock others = .ok whole) :
    (part.data = whole.data ↔
      version = .v10 ∧ tokenOrNative named.currency = tokenOrNative others.currency ∧
        named.Vanishes version) ∧
      (version = .v10 →
        (slot? (part.data.drop 4) slotSize = some (wordBytes 0) ↔ named.Vanishes version)) := by
  rcases partialWithdrawFromLock_data accepted with ⟨units, equal, nothing⟩
  rw [equal, ← nothing]
  by_cases newest : version = .v10
  · subst newest
    cases withdrawn
    refine ⟨?_, fun _ => ?_⟩
    · change withdrawalData .v10 named.currency units = withdrawalData .v10 others.currency 0 ↔ _
      rw [tokenWithdrawal_inj]
      simp
    · rw [(tokenWithdrawal_slots _ _).2, Option.some.injEq, wordBytes_injective.eq_iff]
  · have different := withdrawalData_ne newest named.currency units withdrawn
    simp [newest, different]

/-- A withdrawal from the lock at the zero address. -/
def withdrawing (amount : String) (decimals : UInt8) : WithdrawParameters :=
  { lock := .zero, account := .zero, amount := some amount, currency := none, decimals }

/-- The call of a full withdrawal, with the gas of a withdrawal. -/
def emptying : ContractCall where
  sender := .zero
  receiver := .zero
  data := withdrawalData .v10 none 0
  gas := Gas.withdraw
  value := 0
  kind := .withdrawal

/-- Four tenths of a currency without places. -/
theorem truncated_withdrawal_agrees :
    partialWithdrawFromLock .v10 (withdrawing "0.4" 0) = .ok emptying ∧
      withdrawFromLock .v10 (withdrawing "" 18) = .ok emptying ∧
      (emptying.data = emptying.data ↔
        ContractVersion.v10 = .v10 ∧ tokenOrNative none = tokenOrNative none ∧
          (withdrawing "0.4" 0).Vanishes .v10) ∧
      (ContractVersion.v10 = .v10 →
        (slot? (emptying.data.drop 4) slotSize = some (wordBytes 0) ↔
          (withdrawing "0.4" 0).Vanishes .v10)) :=
  have accepted : partialWithdrawFromLock .v10 (withdrawing "0.4" 0) = .ok emptying := rfl
  have withdrawn : withdrawFromLock .v10 (withdrawing "" 18) = .ok emptying := rfl
  ⟨accepted, withdrawn, withdrawals_agree_iff accepted withdrawn⟩

/-- A partial withdrawal of nothing withdraws everything. -/
theorem zero_withdrawal_is_full :
    ¬ ∀ (version : ContractVersion) (named others : WithdrawParameters)
      (part whole : ContractCall), version.partialWithdrawFromLock named = .ok part →
      version.withdrawFromLock others = .ok whole → part.data ≠ whole.data := by
  intro differ
  exact differ .v10 (withdrawing "0" 18) (withdrawing "" 18) emptying emptying rfl rfl rfl

end ContractVersion

end LockGateway
