import LockGateway.Proofs.Abi.Slots
import LockGateway.Proofs.Gateway.Encoding
import LockGateway.Proofs.Quantity

/-! What stands in the data of the call that creates a lock. Every version writes the
duration first; the token, where the version has it, shifts the price and the key limit by
one slot. -/

namespace LockGateway.ContractVersion

open Abi

variable {version : ContractVersion} {unlock sender : Address} {parameters : CreateLockParameters}
  {call : ContractCall}

/-- The slots of the price and of the key limit. -/
def priceSlot (version : ContractVersion) : Nat := if version.supportsTokens then 2 else 1

def limitSlot (version : ContractVersion) : Nat := if version.supportsTokens then 3 else 2

/-- A version without tokens creates locks in the native currency only. -/
theorem native_of_requireNative {currency : Option Address}
    (native : version.requireNative currency = .ok ())
    (tokenless : version.supportsTokens = false) :
    tokenOrNative currency = .zero := by
  cases currency with
  | none => rfl
  | some token =>
      by_cases named : token = .zero
      · exact named
      · simp [requireNative, named, tokenless] at native

/-- What is known of the call that creates a lock, besides who sends it. -/
structure Created (version : ContractVersion) (parameters : CreateLockParameters)
    (data : List UInt8) (price : Word) : Prop where
  native : version.requireNative parameters.currency = .ok ()
  units : Amount.toBaseUnits parameters.keyPrice (version.decimals parameters.decimals) = .ok price
  duration : slot? (data.drop 4) 0 =
    some (wordBytes (BitVec.ofNat 256 parameters.expirationDuration.toNat))
  token (supported : version.supportsTokens = true) : slot? (data.drop 4) slotSize =
    some (addressBytes (tokenOrNative parameters.currency))
  price : slot? (data.drop 4) (slotSize * version.priceSlot) = some (wordBytes price)
  limit : slot? (data.drop 4) (slotSize * version.limitSlot) =
    some (wordBytes (keyLimit parameters.maxNumberOfKeys))

theorem createLock_created (created : version.createLock unlock sender parameters = .ok call) :
    ∃ price, version.Created parameters call.data price := by
  rcases Order.built_ok created with ⟨_, price, native, read, equal⟩
  have units := Outcome.mapError_eq_ok_iff.mp read
  refine ⟨price, native, units, ?_, ?_, ?_, ?_⟩
  all_goals rw [equal]
  · cases version with
    | v0 | v01 => exact Method.createLock.slot?_call 0 rfl rfl
    | v02 => exact Method.createTokenLock.slot?_call 0 rfl rfl
    | v10 => exact Method.createNamedLock.slot?_call 0 rfl rfl
  · intro supported
    cases version with
    | v0 | v01 => cases supported
    | v02 => exact Method.createTokenLock.slot?_call 1 rfl rfl
    | v10 => exact Method.createNamedLock.slot?_call 1 rfl rfl
  · cases version with
    | v0 | v01 => exact Method.createLock.slot?_call 1 rfl rfl
    | v02 => exact Method.createTokenLock.slot?_call 2 rfl rfl
    | v10 => exact Method.createNamedLock.slot?_call 2 rfl rfl
  · cases version with
    | v0 | v01 => exact Method.createLock.slot?_call 2 rfl rfl
    | v02 => exact Method.createTokenLock.slot?_call 3 rfl rfl
    | v10 => exact Method.createNamedLock.slot?_call 3 rfl rfl

/-- Amounts in the native currency have the places of ether, so all versions count alike. -/
theorem Created.decimals_eq {data : List UInt8} {price : Word}
    (created : version.Created parameters data price)
    (native : tokenOrNative parameters.currency = .zero → parameters.decimals = 18) :
    version.decimals parameters.decimals = parameters.decimals.toNat := by
  rw [decimals]
  split
  · rfl
  · rename_i unsupported
    rw [native (native_of_requireNative created.native (by simpa using unsupported))]
    rfl

/-! ## Key limits -/

/-- A limit of keys as it is counted, with minus one for none. -/
def countedLimit : Option UInt64 → Int
  | none => -1
  | some limit => limit.toNat

theorem keyCount_keyLimit {limit : Option UInt64}
    (small : ∀ count, limit = some count → count.toNat < Nat.pow 2 63) :
    ∃ count, keyCount (keyLimit limit) = .ok count ∧ count.toInt = countedLimit limit := by
  cases limit with
  | none => exact ⟨LockSnapshot.unlimitedKeys, rfl, rfl⟩
  | some limit =>
      have bound : limit.toNat < 2 ^ 63 := small limit rfl
      have limited : BitVec.ofNat 256 limit.toNat ≠ BitVec.allOnes 256 := by
        intro equal
        have numbers := congrArg BitVec.toNat equal
        rw [Quantity.toNat_wordOfUInt64, BitVec.toNat_allOnes] at numbers
        omega
      refine ⟨Int64.ofNat limit.toNat, ?_, Int64.toInt_ofNat_of_lt bound⟩
      rw [keyLimit, keyCount, if_neg limited, Quantity.toUInt64_wordOfUInt64]
      exact if_pos bound

end LockGateway.ContractVersion
