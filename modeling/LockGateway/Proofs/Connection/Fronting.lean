import LockGateway.Proofs.Connection.Sending

/-! The node behind a connection: a wallet, a server, or the wallet of a relay's host.
A call reaches the node as one request. What the node replies comes back as it is, but
for a relay, where the host puts it in its own form. -/

namespace LockGateway

variable {σ : Type}

/-- Something that replies to requests. -/
abbrev NodeM (σ : Type) := Rpc.Request → StateM σ Reply

namespace Backend

inductive Fronts : Backend (StateM σ) → NodeM σ → Prop
  | direct (wallet : Wallet (StateM σ)) : Fronts (.direct wallet) wallet.request
  | http (url : String) (server : HttpServer (StateM σ)) (schedule : Schedule) :
      Fronts (.http url server schedule) (server.post url)
  | relay (wallet : Sender (StateM σ)) (flavor : WalletFlavor) (capacity : Nat)
      (schedule : Schedule) :
      Fronts (.relay (RelayHost.native wallet flavor).answer capacity schedule)
        fun request => wallet request.method request.params

def isRelay : Backend (StateM σ) → Bool
  | relay _ _ _ => true
  | direct _ | http _ _ _ => false

/-- What the gateway gets of the node's reply. -/
def passOn (backend : Backend (StateM σ)) (id : UInt64) (reply : Reply) : Reply :=
  if backend.isRelay then .ok (RelayHost.nativeReply id reply).response else reply

theorem Fronts.deliver_eq {backend : Backend (StateM σ)} {node : NodeM σ}
    (fronts : backend.Fronts node) (id : UInt64) {method : String} (named : method ≠ "")
    (other : method ≠ walletInfoMethod) (params : List Json) (world : σ) :
    backend.carrier.deliver (.make id method (.list params)) world =
      let replied := node (.make id method (.list params)) world
      (backend.passOn id replied.1, replied.2) := by
  cases fronts with
  | direct wallet => rfl
  | http url server schedule => rfl
  | relay wallet flavor capacity schedule =>
      exact RelayHost.native_deliver wallet flavor id named other params world

theorem Fronts.call_eq {backend : Backend (StateM σ)} {node : NodeM σ}
    (fronts : backend.Fronts node) {method : String} (named : method ≠ "")
    (other : method ≠ walletInfoMethod) (params : List Json) (traffic : Traffic (StateM σ))
    (world : σ) :
    backend.caller.call method (.list params) traffic world =
      let request := traffic.nextRequest method (.list params)
      let replied := node request (backend.carrier.arrival traffic world)
      ((backend.passOn request.id replied.1, backend.carrier.called traffic request),
        replied.2) := by
  rw [backend.call_eq params named, Traffic.nextRequest]
  dsimp only
  rw [fronts.deliver_eq _ named other]
  rfl

end Backend

end LockGateway
