import LockGateway.Error

/-! Settings, and how they are read from environment variables. A variable that
cannot be read leaves the setting as it is. -/

namespace LockGateway

inductive RuntimeProfile where
  | development
  | production
  deriving DecidableEq, Repr

namespace RuntimeProfile

/-- Everything that does not say production is development. -/
def ofText (text : String) : RuntimeProfile :=
  let name := Text.lowercase (Text.trim text)
  if name = "production" ∨ name = "prod" then production else development

def name : RuntimeProfile → String
  | development => "Development"
  | production => "Production"

end RuntimeProfile

structure Config where
  profile : RuntimeProfile
  /-- The endpoint of the local node. -/
  providerUrl : Option String
  unlockAddress : Address
  /-- In milliseconds. -/
  rpcTimeout : UInt64
  eventCapacity : UInt64
  /-- The only network that is accepted, if one is required. -/
  requiredChainId : Option UInt64
  deriving DecidableEq, Repr

namespace Config

def standard : Config where
  profile := .development
  providerUrl := none
  unlockAddress := Address.zero
  rpcTimeout := 15000
  eventCapacity := 256
  requiredChainId := none

/-- The value of a variable, without blanks around it, if it can be read. -/
def setting? (valueOf : String → Option String) (name : String)
    (read : String → Option α) : Option α :=
  (valueOf name).bind fun text => read (Text.trim text)

def readUrl (text : String) : Option String :=
  if text.isEmpty then none else some text

def readAddress (text : String) : Option Address := (Address.ofText text).toOption

def ofEnvironment (valueOf : String → Option String) : Config where
  profile := (setting? valueOf "UNLOCK_RUNTIME_PROFILE" (some <| RuntimeProfile.ofText ·)).getD
    standard.profile
  providerUrl := setting? valueOf "UNLOCK_PROVIDER_URL" readUrl
  unlockAddress := (setting? valueOf "UNLOCK_CONTRACT_ADDRESS" readAddress).getD
    standard.unlockAddress
  rpcTimeout := (setting? valueOf "UNLOCK_RPC_TIMEOUT_MS" readUInt64).getD
    standard.rpcTimeout
  eventCapacity := (setting? valueOf "UNLOCK_EVENT_CAPACITY" readUInt64).getD
    standard.eventCapacity
  requiredChainId := setting? valueOf "UNLOCK_REQUIRE_CHAIN_ID" readUInt64

/-- Production does without fallbacks. -/
def isStrict (config : Config) : Bool := config.profile = .production

def isDevelopment (config : Config) : Bool := config.profile = .development

def fallbackUrl : String := "http://127.0.0.1:8545"

def localRpcUrl (config : Config) : Except GatewayError String :=
  match config.providerUrl with
  | some url => .ok url
  | none =>
      if config.isStrict then .error (.configuration .noProviderUrl) else .ok fallbackUrl

end Config

end LockGateway
