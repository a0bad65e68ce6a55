import LockGateway.Address
import LockGateway.Json.Record

/-! The state of a lock as it is read from the chain. -/

namespace LockGateway

structure LockSnapshot where
  keyPrice : String
  expirationDuration : UInt64
  /-- Minus one if keys are unlimited. -/
  maxNumberOfKeys : Int64
  owner : Address
  balance : String
  outstandingKeys : UInt64
  currencyContractAddress : Option Address
  publicLockVersion : Option UInt64
  /-- The number of the block before the reading. -/
  asOf : UInt64
  deriving DecidableEq, Repr

namespace LockSnapshot

/-- Stands for "no limit" among the key counts. -/
def unlimitedKeys : Int64 := -1

def members (snapshot : LockSnapshot) : List (String × Json) :=
  [("keyPrice", .string snapshot.keyPrice),
   ("expirationDuration", .ofUInt64 snapshot.expirationDuration),
   ("maxNumberOfKeys", .ofInt64 snapshot.maxNumberOfKeys),
   ("owner", .string snapshot.owner.text),
   ("balance", .string snapshot.balance),
   ("outstandingKeys", .ofUInt64 snapshot.outstandingKeys),
   ("currencyContractAddress",
     .ofOption (snapshot.currencyContractAddress.map fun token => .string token.text)),
   ("publicLockVersion", .ofOption (snapshot.publicLockVersion.map .ofUInt64)),
   ("asOf", .ofUInt64 snapshot.asOf)]

def toJson (snapshot : LockSnapshot) : Json := .ofMembers snapshot.members

def keyPriceField : Json.Field String := .required "keyPrice" Json.readText
def expirationDurationField : Json.Field UInt64 :=
  .required "expirationDuration" Json.readUInt64
def maxNumberOfKeysField : Json.Field Int64 := .required "maxNumberOfKeys" Json.readInt64
def ownerField : Json.Field Address := .required "owner" (Json.readOctets 20)
def balanceField : Json.Field String := .required "balance" Json.readText
def outstandingKeysField : Json.Field UInt64 := .required "outstandingKeys" Json.readUInt64
def currencyField : Json.Field (Option Address) :=
  .optional "currencyContractAddress" (Json.readOctets 20)
def versionField : Json.Field (Option UInt64) := .optional "publicLockVersion" Json.readUInt64
def asOfField : Json.Field UInt64 := .required "asOf" Json.readUInt64

def ofJson (value : Json) : Except Json.Fault LockSnapshot := do
  let members ← Json.openRecord "LockSnapshot"
    [keyPriceField.shape, expirationDurationField.shape, maxNumberOfKeysField.shape,
     ownerField.shape, balanceField.shape, outstandingKeysField.shape, currencyField.shape,
     versionField.shape, asOfField.shape] value
  return { keyPrice := ← keyPriceField.fetch members
           expirationDuration := ← expirationDurationField.fetch members
           maxNumberOfKeys := ← maxNumberOfKeysField.fetch members
           owner := ← ownerField.fetch members
           balance := ← balanceField.fetch members
           outstandingKeys := ← outstandingKeysField.fetch members
           currencyContractAddress := ← currencyField.fetch members
           publicLockVersion := ← versionField.fetch members
           asOf := ← asOfField.fetch members }

end LockSnapshot

end LockGateway
