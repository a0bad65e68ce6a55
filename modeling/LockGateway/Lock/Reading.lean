import LockGateway.Abi.Signature
import LockGateway.Lock.Snapshot
import LockGateway.Quantity
import LockGateway.Rpc.Query

/-! Reading contracts: single getters, and the state of a lock put together from
those that its version has. Most of a lock's figures are asked for together. -/

namespace LockGateway

namespace Question

/-- Calls a method of a contract as of the latest block, without a transaction. -/
def callContract (kind : Abi.ResultKind α) (contract : Address) (method : Abi.Signature)
    (arguments : List Abi.Value) : Question α :=
  let data := Hex.text (method.call arguments)
  let target := Json.ofMembers [("to", .string contract.checksumText), ("data", .string data)]
  { method := "eth_call"
    params := [target, .string "latest"]
    read := fun reply => do
      let bytes ← readHexData (← reply.result)
      (kind.read bytes).mapError (.invalidResponse <| .undecodable method.text ·) }

def getter (kind : Abi.ResultKind α) (contract : Address) (name : String) : Question α :=
  callContract kind contract (.getter name) []

def quantity (method : String) (params : List Json) : Question Word where
  method
  params
  read := fun reply => do Quantity.ofJson (← reply.result)

/-- A number that must fit 64 bits; the name is that in the error. -/
def fitting (question : Question Word) (name : String) : Question UInt64 where
  method := question.method
  params := question.params
  read := fun reply => do Quantity.toUInt64 (← question.read reply) name

def blockNumber : Question UInt64 := (quantity "eth_blockNumber" []).fitting "blockNumber"

end Question

/-- The code at an address, as the node tells it. -/
def Query.code (address : Address) : Query Json :=
  send "eth_getCode" (.list [.string address.checksumText, .string "latest"])

/-- What every version of a lock tells of itself, and when it was asked. -/
structure LockFigures where
  keyPrice : Word
  expirationDuration : Word
  maxNumberOfKeys : Word
  owner : Address
  outstandingKeys : UInt64
  asOf : UInt64
  deriving DecidableEq, Repr

namespace ContractVersion

/-- The getter of the number of sold keys. -/
def supplyGetter : ContractVersion → String
  | v0 | v01 | v02 => "outstandingKeys"
  | v10 => "totalSupply"

/-- Whether locks of the version tell their version. -/
def reportsVersion : ContractVersion → Bool
  | v0 => false
  | v01 | v02 | v10 => true

/-- The greatest value stands for unlimited keys; other counts must fit. -/
def keyCount (limit : Word) : Except GatewayError Int64 :=
  if limit = BitVec.allOnes 256 then .ok LockSnapshot.unlimitedKeys
  else do
    let count ← Quantity.toUInt64 limit "maxNumberOfKeys"
    if count.toNat < Nat.pow 2 63 then return Int64.ofNat count.toNat
    else throw (.invalidResponse (.exceedsInt64 "maxNumberOfKeys"))

/-- The token of a lock; the zero address if it is priced in the native
currency. -/
def readToken (version : ContractVersion) (lock : Address) : Query Address :=
  if version.supportsTokens then .ask (.getter .address lock "tokenAddress")
  else pure Address.zero

def readVersion (version : ContractVersion) (lock : Address) : Query (Option UInt64) := do
  if version.reportsVersion then
    return some (← .ask
      ((Question.getter .uint256 lock "publicLockVersion").fitting "publicLockVersion"))
  else return none

/-- The figures of a lock, with the getters that the version has. -/
def figures (version : ContractVersion) (lock : Address) : Batch LockFigures :=
  LockFigures.mk
    <$> .one (.getter .uint256 lock "keyPrice")
    <*> .one (.getter .uint256 lock "expirationDuration")
    <*> .one (.getter .uint256 lock "maxNumberOfKeys")
    <*> .one (.getter .address lock "owner")
    <*> .one ((Question.getter .uint256 lock version.supplyGetter).fitting "outstandingKeys")
    <*> .one .blockNumber

def balanceOf : Abi.Signature := ⟨"balanceOf", [.address]⟩

/-- What a lock owns of a token, and the places of the token. -/
def tokenBalance (lock token : Address) : Batch (Word × Nat) :=
  (fun balance decimals => (balance, decimals.toNat))
    <$> .one (.callContract .uint256 token balanceOf [.address lock])
    <*> .one (.getter .uint8 token "decimals")

/-- What a lock owns of its currency, and the places of that currency. -/
def readBalance (lock token : Address) : Query (Word × Nat) := do
  if token = Address.zero then
    let balance ← .ask
      (.quantity "eth_getBalance" [.string lock.checksumText, .string "latest"])
    return (balance, Amount.etherDecimals)
  else .gather (tokenBalance lock token)

def readLock (version : ContractVersion) (lock : Address) : Query LockSnapshot := do
  let figures ← .gather (version.figures lock)
  let token ← version.readToken lock
  let publicLockVersion ← version.readVersion lock
  let (balance, decimals) ← readBalance lock token
  .ofExcept do
    return {
      keyPrice := ← Amount.reportedUnits figures.keyPrice decimals
      expirationDuration :=
        ← Quantity.toUInt64 figures.expirationDuration "expirationDuration"
      maxNumberOfKeys := ← keyCount figures.maxNumberOfKeys
      owner := figures.owner
      balance := ← Amount.reportedUnits balance decimals
      outstandingKeys := figures.outstandingKeys
      currencyContractAddress := if token = Address.zero then none else some token
      publicLockVersion
      asOf := figures.asOf }

end ContractVersion

end LockGateway
