import LockGateway.Traffic

/-! How the calls of a connection travel, one at a time and several together. The
calls of a batch are all on their way at once, and come back in any order; the first
fault that the gateway looks at ends the batch. -/

namespace LockGateway

/-! ## The calls of a batch -/

/-- A call of a batch with the number of its request. -/
structure NumberedCall where
  number : Nat
  call : BatchCall

def NumberedCall.request (made : NumberedCall) : Rpc.Request :=
  .make (UInt64.ofNat made.number) made.call.method (.list made.call.params)

/-- Where the calls of a batch stand. -/
structure Flight where
  uncalled : List BatchCall
  /-- Calls that were made, with requests that did not go out yet. -/
  waiting : List NumberedCall
  /-- Calls with requests on their way. -/
  posted : List NumberedCall
  /-- Calls with replies that the gateway has not looked at yet. -/
  replied : List (NumberedCall × Reply)
  answered : List (NumberedCall × Reply)

namespace Flight

def start (calls : List BatchCall) : Flight :=
  { uncalled := calls, waiting := [], posted := [], replied := [], answered := [] }

/-- The reply to the call of a number. -/
def replyTo (flight : Flight) (number : Nat) : Reply :=
  ((flight.answered.find? (·.1.number = number)).map (·.2)).getD .lost

/-- The replies to so many calls after a number of earlier requests, in the order of
the calls. -/
def replies (flight : Flight) (earlier calls : Nat) : List Reply :=
  (List.range' (earlier + 1) calls).map flight.replyTo

end Flight

/-! ## Carriers -/

structure Carrier (m : Type → Type) where
  /-- Why a request cannot be sent at all. -/
  refusal? : Rpc.Request → Option GatewayError
  /-- Whether a request goes out as soon as it is made, if so many are on their way. -/
  admits : (onTheWay : Nat) → Bool
  deliver : Rpc.Request → m Reply
  schedule : Schedule

namespace Carrier

variable {m : Type → Type} [Monad m]

/-- What happens while so many calls are made. -/
def moves (carrier : Carrier m) (traffic : Traffic m) (calls : Nat) : List Move :=
  carrier.schedule traffic.numbered traffic.undelivered.length calls

/-- Makes a call, and waits for the reply. -/
def call (carrier : Carrier m) : Sender (StateT (Traffic m) m) := fun method params => do
  let moves := carrier.moves (← get) 1
  let request := Rpc.Request.make (UInt64.ofNat (← Traffic.number)) method params
  match carrier.refusal? request with
  | some error => return .error error
  | none =>
      Traffic.send request
      Traffic.attend moves
      (carrier.deliver request : m Reply)

/-! ## Batches -/

/-- Makes the next call. Its request goes out at once if it may, and if no other
waits. -/
def makeNext (carrier : Carrier m) (flight : Flight) : StateT (Traffic m) m Flight :=
  match flight.uncalled with
  | [] => return flight
  | call :: uncalled => do
      let made : NumberedCall := { number := ← Traffic.number, call }
      let onTheWay := (← get).undelivered.length + flight.posted.length
      match carrier.refusal? made.request with
      | some error =>
          return { flight with uncalled, replied := flight.replied ++ [(made, .error error)] }
      | none =>
          if flight.waiting.isEmpty && carrier.admits onTheWay then
            Traffic.send made.request
            return { flight with uncalled, posted := flight.posted ++ [made] }
          else return { flight with uncalled, waiting := flight.waiting ++ [made] }

/-- Sends the request of a call that waits. -/
def postAt (position : Nat) (flight : Flight) : StateT (Traffic m) m Flight :=
  match pick? position flight.waiting with
  | none => return flight
  | some (made, waiting) => do
      Traffic.send made.request
      return { flight with waiting, posted := flight.posted ++ [made] }

/-- Lets a request on its way be handled. -/
def handleAt (carrier : Carrier m) (position : Nat) (flight : Flight) :
    StateT (Traffic m) m Flight :=
  match pick? position flight.posted with
  | none => return flight
  | some (made, posted) => do
      let reply ← (carrier.deliver made.request : m Reply)
      return { flight with posted, replied := flight.replied ++ [(made, reply)] }

/-- Looks at a reply. After a fault nobody waits for the requests that are still on
their way, and those that did not go out yet never do. -/
def lookAt (carrier : Carrier m) (position : Nat) (flight : Flight) :
    StateT (Traffic m) m (Except GatewayError Flight) :=
  match pick? position flight.replied with
  | none => return .ok flight
  | some ((made, reply), replied) =>
      match made.call.fault? reply with
      | none => return .ok { flight with replied, answered := flight.answered ++ [(made, reply)] }
      | some error => do
          Traffic.leave (flight.posted.map fun made => ⟨carrier.deliver, made.request⟩)
          return .error error

def step (carrier : Carrier m) (flight : Flight) :
    Move → StateT (Traffic m) m (Except GatewayError Flight)
  | .make => .ok <$> carrier.makeNext flight
  | .post position => .ok <$> postAt position flight
  | .handle position => .ok <$> carrier.handleAt position flight
  | .look position => carrier.lookAt position flight
  | .settle position => do
      Traffic.settle position
      return .ok flight

/-- Follows moves up to the first fault. -/
def fly (carrier : Carrier m) : List Move → Flight →
    StateT (Traffic m) m (Except GatewayError Flight)
  | [], flight => return .ok flight
  | move :: rest, flight => do
      match ← carrier.step flight move with
      | .error error => return .error error
      | .ok flight => carrier.fly rest flight

/-- Makes calls together. When every call had its turn, all of them are answered. -/
def together (carrier : Carrier m) (calls : List BatchCall) :
    StateT (Traffic m) m (Except GatewayError (List Reply)) := do
  let traffic : Traffic m ← get
  let moves := carrier.moves traffic calls.length ++ Move.inTurn calls.length
  let landed ← carrier.fly moves (.start calls)
  return landed.map (·.replies traffic.numbered calls.length)

def caller (carrier : Carrier m) : Caller (StateT (Traffic m) m) where
  call := carrier.call
  callTogether := carrier.together

end Carrier

end LockGateway
