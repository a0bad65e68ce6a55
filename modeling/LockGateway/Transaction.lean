import LockGateway.Address
import LockGateway.Json.Record

/-! Transactions that were handed to a node, and the kinds and states in which
they are reported. -/

namespace LockGateway

inductive TransactionKind where
  | lockCreation
  | keyPurchase
  | withdrawal
  | updateKeyPrice
  deriving DecidableEq, Repr

namespace TransactionKind

def name : TransactionKind → String
  | lockCreation => "LOCK_CREATION"
  | keyPurchase => "KEY_PURCHASE"
  | withdrawal => "WITHDRAWAL"
  | updateKeyPrice => "UPDATE_KEY_PRICE"

def named : List (String × TransactionKind) :=
  [lockCreation, keyPurchase, withdrawal, updateKeyPrice].map fun kind => (kind.name, kind)

def toJson (kind : TransactionKind) : Json := .string kind.name

def ofJson : Json → Except Json.Fault TransactionKind := Json.readVariant named

end TransactionKind

inductive TransactionStatus where
  | submitted
  | pending
  | mined
  | failed
  deriving DecidableEq, Repr

namespace TransactionStatus

def name : TransactionStatus → String
  | submitted => "submitted"
  | pending => "pending"
  | mined => "mined"
  | failed => "failed"

def named : List (String × TransactionStatus) :=
  [submitted, pending, mined, failed].map fun status => (status.name, status)

def toJson (status : TransactionStatus) : Json := .string status.name

def ofJson : Json → Except Json.Fault TransactionStatus := Json.readVariant named

/-- Nothing changes a final status any more. -/
def isFinal : TransactionStatus → Bool
  | mined | failed => true
  | submitted | pending => false

end TransactionStatus

/-- What a node accepted. -/
structure SentTransaction where
  hash : Hash
  sender : Address
  receiver : Address
  data : List UInt8
  deriving DecidableEq, Repr

structure Transaction where
  hash : Hash
  sender : Address
  receiver : Address
  data : List UInt8
  kind : TransactionKind
  status : TransactionStatus
  blockNumber : Option UInt64
  deriving DecidableEq, Repr

namespace Transaction

def members (transaction : Transaction) : List (String × Json) :=
  [("hash", .string transaction.hash.text),
   ("from", .string transaction.sender.text),
   ("to", .string transaction.receiver.text),
   ("data", .string (Hex.text transaction.data)),
   ("kind", transaction.kind.toJson),
   ("status", transaction.status.toJson),
   ("block_number", .ofOption (transaction.blockNumber.map .ofUInt64))]

def toJson (transaction : Transaction) : Json := .ofMembers transaction.members

def hashField : Json.Field Hash := .required "hash" (Json.readOctets 32)
def senderField : Json.Field Address := .required "from" (Json.readOctets 20)
def receiverField : Json.Field Address := .required "to" (Json.readOctets 20)
def dataField : Json.Field (List UInt8) := .required "data" Json.readBytes
def kindField : Json.Field TransactionKind := .required "kind" TransactionKind.ofJson
def statusField : Json.Field TransactionStatus := .required "status" TransactionStatus.ofJson
def blockNumberField : Json.Field (Option UInt64) := .optional "block_number" Json.readUInt64

def ofJson (value : Json) : Except Json.Fault Transaction := do
  let members ← Json.openRecord "Transaction"
    [hashField.shape, senderField.shape, receiverField.shape, dataField.shape,
     kindField.shape, statusField.shape, blockNumberField.shape] value
  return { hash := ← hashField.fetch members
           sender := ← senderField.fetch members
           receiver := ← receiverField.fetch members
           data := ← dataField.fetch members
           kind := ← kindField.fetch members
           status := ← statusField.fetch members
           blockNumber := ← blockNumberField.fetch members }

end Transaction

end LockGateway
