import LockGateway.Abi.Value

/-! Contract methods. A call starts with four bytes that tell the method: the
beginning of the hash of its name with the kinds of its arguments. -/

namespace LockGateway.Abi

structure Signature where
  name : String
  inputs : List Kind
  deriving DecidableEq, Repr

namespace Signature

def text (signature : Signature) : String :=
  signature.name ++ "(" ++ ",".intercalate (signature.inputs.map Kind.text) ++ ")"

def selector (signature : Signature) : List UInt8 :=
  (Keccak.digest (Text.utf8 signature.text)).bytes.take 4

/-- The data of a call with these arguments. -/
def call (signature : Signature) (arguments : List Value) : List UInt8 :=
  signature.selector ++ encode arguments

/-- A method without arguments. -/
def getter (name : String) : Signature := { name, inputs := [] }

end Signature

end LockGateway.Abi
