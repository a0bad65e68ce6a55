import LockGateway.Json.Record

/-! What is known of the wallet behind a connection. -/

namespace LockGateway

inductive WalletFlavor where
  | metaMask
  | generic
  deriving DecidableEq, Repr

namespace WalletFlavor

def name : WalletFlavor → String
  | metaMask => "MetaMask"
  | generic => "Generic"

def named : List (String × WalletFlavor) :=
  [metaMask, generic].map fun flavor => (flavor.name, flavor)

def toJson (flavor : WalletFlavor) : Json := .string flavor.name

def ofJson : Json → Except Json.Fault WalletFlavor := Json.readVariant named

end WalletFlavor

structure WalletInfo where
  noWallet : Bool
  notEnabled : Bool
  isMetamask : Bool
  deriving DecidableEq, Repr

namespace WalletInfo

def available (flavor : WalletFlavor) : WalletInfo :=
  { noWallet := false, notEnabled := false, isMetamask := flavor = .metaMask }

def unavailable : WalletInfo :=
  { noWallet := true, notEnabled := false, isMetamask := false }

/-- A wallet that is there but whose user did not open it. -/
def declined : WalletInfo :=
  { noWallet := false, notEnabled := true, isMetamask := false }

def flavor (info : WalletInfo) : WalletFlavor :=
  if info.isMetamask then .metaMask else .generic

def members (info : WalletInfo) : List (String × Json) :=
  [("noWallet", .boolean info.noWallet),
   ("notEnabled", .boolean info.notEnabled),
   ("isMetamask", .boolean info.isMetamask)]

def toJson (info : WalletInfo) : Json := .ofMembers info.members

def noWalletField : Json.Field Bool := .required "noWallet" Json.readBoolean
def notEnabledField : Json.Field Bool := .required "notEnabled" Json.readBoolean
def isMetamaskField : Json.Field Bool := .required "isMetamask" Json.readBoolean

def ofJson (value : Json) : Except Json.Fault WalletInfo := do
  let members ← Json.openRecord "WalletInfo"
    [noWalletField.shape, notEnabledField.shape, isMetamaskField.shape] value
  return { noWallet := ← noWalletField.fetch members
           notEnabled := ← notEnabledField.fetch members
           isMetamask := ← isMetamaskField.fetch members }

end WalletInfo

end LockGateway
