import LockGateway.Gateway.Connecting
import LockGateway.Gateway.Locks

/-! The command line: it connects to the configured node and reports the
network, the account, whether the lock factory is deployed, and the locks whose
addresses are given. What it prints is data here. -/

namespace LockGateway

/-- Why a report was broken off. -/
structure Failure where
  message : String
  cause : Option String
  deriving DecidableEq, Repr

namespace Failure

def ofError (error : GatewayError) : Failure := { message := error.message, cause := none }

/-- A failure that has an error as its cause. -/
def because (message : String) (error : GatewayError) : Failure :=
  { message, cause := some error.message }

/-- The lines of a text, moved to the right; empty lines stay empty. -/
def indented (text : String) : String :=
  let lines := text.splitOn "\n"
  "\n".intercalate <| lines.map fun line => if line.isEmpty then line else "    " ++ line

def text (failure : Failure) : String :=
  let cause := match failure.cause with
    | none => ""
    | some cause => "\n\nCaused by:\n" ++ indented cause
  "Error: " ++ failure.message ++ cause

end Failure

/-- Everything that a run of the command line leaves behind. -/
structure Report where
  lines : List String
  failure : Option Failure
  deriving Repr

def Report.exitCode (report : Report) : UInt32 := if report.failure.isSome then 1 else 0

/-- A report in the making. Lines stay printed if it fails later. -/
abbrev ReportM (m : Type → Type) :=
  ExceptT Failure (StateT (List String) (StateT (Session m) m))

namespace CommandLine

variable {m : Type → Type} [Monad m]

def print (line : String) : ReportM m Unit :=
  modify fun lines => lines ++ [line]

/-- An action whose failure is told as it is, or as the cause of another. -/
def act (action : GatewayM m α) (failure : GatewayError → Failure) : ReportM m α :=
  ExceptT.mk <| StateT.lift <| Except.mapError failure <$> action.run

def readAddress (text : String) : ReportM m Address :=
  match Address.ofText text with
  | .ok address => return address
  | .error fault =>
      throw { message := s!"invalid lock address '{text}': {fault.message}", cause := none }

def reportLock (text : String) : ReportM m Unit := do
  let lock ← readAddress text
  let snapshot ← act (Gateway.getLock lock)
    (.because s!"failed to read lock {lock.checksumText}")
  print (Json.object snapshot.members).indentedText

def reportNetwork : ReportM m Unit := do
  match (← act Gateway.current .ofError).networkId with
  | some network => print s!"network: {Numeral.text 10 network.toNat}"
  | none => return

def reportAccount : ReportM m Unit := do
  match ← act Gateway.getAccount .ofError with
  | some account => print s!"account: {account.checksumText}"
  | none => print "account: none"

def reportDeployment : ReportM m Unit := do
  let deployed ← act Gateway.isUnlockContractDeployed .ofError
  print ("unlock contract deployed: " ++ if deployed then "true" else "false")

def report (server : HttpServer m) (schedule : Schedule) (locks : List String) :
    ReportM m Unit := do
  let walletInfo ← act (Gateway.connect (.localRpc server schedule))
    (.because "failed to connect to the node")
  if walletInfo.noWallet then print "no wallet available"
  else
    reportNetwork
    reportAccount
    reportDeployment
    locks.forM reportLock

/-- Runs the command line over a node that is reached through `server`. -/
def run (config : Config) (server : HttpServer m) (schedule : Schedule) (locks : List String) :
    m Report := do
  let reporting : StateT (Session m) m (Except Failure Unit × List String) :=
    (report server schedule locks).run.run []
  let ((outcome, lines), _) ← reporting.run (.start (.new config))
  return { lines
           failure := match outcome with
             | .ok () => none
             | .error failure => some failure }

end CommandLine

end LockGateway
