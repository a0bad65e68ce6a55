import LockGateway.Json.Record
import LockGateway.Text.Blank

/-! Deployed versions of the lock contracts. A version is named by a tag in
texts and by a number in the contracts themselves. -/

namespace LockGateway

inductive ContractVersion where
  | v0
  | v01
  | v02
  | v10
  deriving DecidableEq, Repr

/-- What names no version, as it was looked up. -/
structure UnsupportedVersion where
  text : String
  deriving DecidableEq, Repr

namespace ContractVersion

def all : List ContractVersion := [v0, v01, v02, v10]

def tag : ContractVersion → String
  | v0 => "v0"
  | v01 => "v01"
  | v02 => "v02"
  | v10 => "v10"

/-- Blanks around a tag and the case of its letters do not matter. -/
def ofTag (text : String) : Except UnsupportedVersion ContractVersion :=
  let wanted := Text.lowercase (Text.trim text)
  match all.find? (·.tag = wanted) with
  | some version => .ok version
  | none => .error ⟨wanted⟩

def number : ContractVersion → UInt64
  | v0 => 0
  | v01 => 1
  | v02 => 2
  | v10 => 3

def ofNumber (number : UInt64) : Except UnsupportedVersion ContractVersion :=
  match all.find? (·.number = number) with
  | some version => .ok version
  | none => .error ⟨Numeral.text 10 number.toNat⟩

/-- Whether locks of the version can be priced in a token. -/
def supportsTokens : ContractVersion → Bool
  | v0 | v01 => false
  | v02 | v10 => true

def name : ContractVersion → String
  | v0 => "V0"
  | v01 => "V01"
  | v02 => "V02"
  | v10 => "V10"

def named : List (String × ContractVersion) := all.map fun version => (version.name, version)

def toJson (version : ContractVersion) : Json := .string version.name

def ofJson : Json → Except Json.Fault ContractVersion := Json.readVariant named

end ContractVersion

/-- The factory that creates locks, or one of its locks. -/
inductive ContractKind where
  | unlock
  | publicLock
  deriving DecidableEq, Repr

end LockGateway
