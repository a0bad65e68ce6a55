import LockGateway.Rpc.Query

/-! Requests on their way. A gateway does not wait for one reply before it makes the
next call of a batch, and whoever gets the requests handles them in an order of its
own. What happens when is not for the gateway to say: it is told as a list of moves,
and a schedule gives one for every call and every batch. -/

namespace LockGateway

/-! ## Moves -/

/-- What happens next. A position is the place of a request among those that this
may happen to; where there is none, nothing happens. -/
inductive Move where
  /-- The next call of the batch is made. -/
  | make
  /-- A request that was made goes on its way. -/
  | post (position : Nat)
  /-- A request on its way is handled, and the reply comes back. -/
  | handle (position : Nat)
  /-- The gateway looks at a reply that came back. -/
  | look (position : Nat)
  /-- A request that nobody waits for any more is handled. -/
  | settle (position : Nat)
  deriving DecidableEq, Repr

namespace Move

/-- Each of so many calls is made, handled and looked at before the next is made. -/
def inTurn (calls : Nat) : List Move :=
  (List.replicate calls [make, post 0, handle 0, look 0]).flatten

end Move

/-- What happens while calls are made, by the number of requests made before, the
number of requests that nobody waits for any more, and the number of the calls.
Whatever it leaves out happens in turn after it. -/
abbrev Schedule := (numbered left calls : Nat) → List Move

namespace Schedule

/-- Nothing happens out of turn. -/
def inTurn : Schedule := fun _ _ _ => []

/-- What nobody waits for any more is handled before the calls are made. -/
def settledFirst : Schedule := fun _ left _ => List.replicate left (.settle 0)

end Schedule

/-- The item at a position, and the others. -/
def pick? (position : Nat) (items : List α) : Option (α × List α) :=
  items[position]?.map fun item => (item, items.eraseIdx position)

example : pick? 1 [7, 8, 9] = some (8, [7, 9]) := by rfl

/-! ## Deliveries -/

/-- A request with those who handle it. -/
structure Delivery (m : Type → Type) where
  deliver : Rpc.Request → m Reply
  request : Rpc.Request

/-- Lets the request be handled. -/
def Delivery.make (delivery : Delivery m) : m Reply := delivery.deliver delivery.request

/-- What became of the requests of a connection, and what is still on its way. -/
structure Traffic (m : Type → Type) where
  /-- The number of requests, sent or not. -/
  numbered : Nat
  /-- The requests that were sent, in that order. -/
  sent : List Rpc.Request
  /-- Requests on their way, also those of earlier connections. Nobody waits for them
  any more, but they may still be handled. -/
  undelivered : List (Delivery m)

namespace Traffic

variable {m : Type → Type} [Monad m]

def start (numbered : Nat) (undelivered : List (Delivery m)) : Traffic m :=
  { numbered, sent := [], undelivered }

/-- The number of the next request. -/
def number : StateT (Traffic m) m Nat := do
  let numbered := (← get).numbered + 1
  modify ({ · with numbered })
  return numbered

def send (request : Rpc.Request) : StateT (Traffic m) m Unit :=
  modify fun traffic => { traffic with sent := traffic.sent ++ [request] }

/-- Leaves requests on their way that nobody waits for any more. -/
def leave (deliveries : List (Delivery m)) : StateT (Traffic m) m Unit :=
  modify fun traffic => { traffic with undelivered := traffic.undelivered ++ deliveries }

/-- Lets a request be handled that nobody waits for any more. -/
def settle (position : Nat) : StateT (Traffic m) m Unit := do
  match pick? position (← get).undelivered with
  | none => return
  | some (delivery, undelivered) =>
      discard <| (delivery.make : m Reply)
      modify ({ · with undelivered })

/-- Lets requests be handled as the moves have it. The other moves are about calls. -/
def attend : List Move → StateT (Traffic m) m Unit
  | [] => return
  | .settle position :: rest => do
      settle position
      attend rest
  | _ :: rest => attend rest

end Traffic

end LockGateway
