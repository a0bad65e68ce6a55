import LockGateway.Lock.Reading

/-! Which version is deployed at an address. The question is put to the node
once; the answer is kept for as long as the connection lasts. -/

namespace LockGateway

/-! ## Asking the node -/

/-- Whether an answer to the question for code is that of a contract. -/
def isContractCode (code : Json) : Bool :=
  match code.string? with
  | some text => text ≠ "" && text ≠ "0x"
  | none => false

def ContractKind.versionGetter : ContractKind → String
  | unlock => "unlockVersion"
  | publicLock => "publicLockVersion"

/-- The number of a version from the outcome of its getter. Contracts older than
the getter refuse the call or answer something that is no word; they are of the
first version. Other failures say nothing about the contract. -/
def versionNumber (outcome : Except GatewayError Word) : Except GatewayError UInt64 :=
  match outcome with
  | .ok word => Quantity.toUInt64 word "contract version"
  | .error (.transport (.rpc _)) | .error (.invalidResponse _) => .ok 0
  | .error error => .error error

def detectVersion (kind : ContractKind) (address : Address) : Query ContractVersion := do
  let code ← .code address
  if isContractCode code then
    let outcome ← (Query.ask (.getter .uint256 address kind.versionGetter)).attempt
    let number ← .ofExcept (versionNumber outcome)
    .ofExcept ((ContractVersion.ofNumber number).mapError .unsupportedVersion)
  else .fail (.validation (.noContract address))

/-! ## Keeping the answers -/

structure VersionRegistry where
  entries : List ((ContractKind × Address) × ContractVersion)
  deriving DecidableEq, Repr

namespace VersionRegistry

def empty : VersionRegistry := ⟨[]⟩

def cached? (registry : VersionRegistry) (kind : ContractKind) (address : Address) :
    Option ContractVersion :=
  registry.entries.lookup (kind, address)

/-- Records a version, over one that was recorded before. -/
def pin (registry : VersionRegistry) (kind : ContractKind) (address : Address)
    (version : ContractVersion) : VersionRegistry :=
  ⟨((kind, address), version) :: registry.entries.filter (·.1 ≠ (kind, address))⟩

theorem cached?_pin (registry : VersionRegistry) (kind other : ContractKind)
    (address place : Address) (version : ContractVersion) :
    (registry.pin kind address version).cached? other place =
      if other = kind ∧ place = address then some version
      else registry.cached? other place := by
  obtain ⟨entries⟩ := registry
  simp only [pin, cached?, List.lookup_cons]
  by_cases same : other = kind ∧ place = address
  · obtain ⟨rfl, rfl⟩ := same
    simp
  · have different : ((other, place) == (kind, address)) = false := by
      simpa using same
    simp only [different, same, if_false]
    induction entries with
    | nil => rfl
    | cons first rest induction =>
        obtain ⟨key, found⟩ := first
        by_cases kept : key = (kind, address)
        · subst kept
          simp only [ne_eq, not_true_eq_false, decide_false, Bool.false_eq_true,
            not_false_eq_true, List.filter_cons_of_neg, List.lookup_cons, different]
          exact induction
        · simp only [List.lookup_cons, ne_eq, kept, not_false_eq_true, decide_true,
            List.filter_cons_of_pos]
          split
          · rfl
          · exact induction

/-- The version at an address, and the registry with it. -/
def resolve (registry : VersionRegistry) (kind : ContractKind) (address : Address) :
    Query (ContractVersion × VersionRegistry) := do
  match registry.cached? kind address with
  | some version => return (version, registry)
  | none =>
      let version ← detectVersion kind address
      return (version, registry.pin kind address version)

end VersionRegistry

end LockGateway
