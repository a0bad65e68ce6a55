import LockGateway.Address

/-! What callers give to the operations on locks. Amounts are decimal texts in
the currency of the lock, which is the native one if no token is named or the
zero address is. -/

namespace LockGateway

structure CreateLockParameters where
  expirationDuration : UInt64
  keyPrice : String
  /-- Without a limit keys are unlimited. -/
  maxNumberOfKeys : Option UInt64
  currency : Option Address
  decimals : UInt8
  name : String
  deriving DecidableEq, Repr

structure PurchaseKeyParameters where
  lock : Address
  owner : Address
  keyPrice : String
  data : List UInt8
  referrer : Option Address
  currency : Option Address
  decimals : UInt8
  deriving DecidableEq, Repr

structure WithdrawParameters where
  lock : Address
  account : Address
  /-- A full withdrawal has no use for it. -/
  amount : Option String
  currency : Option Address
  decimals : UInt8
  deriving DecidableEq, Repr

structure UpdateKeyPriceParameters where
  lock : Address
  account : Address
  keyPrice : String
  currency : Option Address
  decimals : UInt8
  deriving DecidableEq, Repr

end LockGateway
