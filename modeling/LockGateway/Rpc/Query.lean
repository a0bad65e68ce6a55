import LockGateway.Error

/-! What an operation wants to know from a node, as a tree: a query is done with
an outcome, or it makes a call, or several calls together, and goes on with the
replies. The node may be anything that replies to calls. -/

namespace LockGateway

/-- What becomes of a call: a response, or the failure of the call itself. -/
abbrev Reply := Except GatewayError Rpc.Response

namespace Reply

/-- The result in a reply. An error in the response is one of transport. -/
def result (reply : Reply) : Except GatewayError Json :=
  match reply with
  | .ok response => response.outcome.mapError (.transport <| .rpc ·)
  | .error error => .error error

/-- What becomes of a call that is never replied to. -/
def lost : Reply := .error (.transport .channelClosed)

end Reply

/-! ## Questions -/

/-- A call, and how its reply is read. -/
structure Question (α : Type) where
  method : String
  params : List Json
  read : Reply → Except GatewayError α

/-- A call that is made together with others. Its reply may be at fault, and
then the others do not matter any more. -/
structure BatchCall where
  method : String
  params : List Json
  fault? : Reply → Option GatewayError

/-- Several calls that are made together, and how their replies are read. -/
structure Batch (α : Type) where
  calls : List BatchCall
  /-- Takes a reply for each call, in the order of the calls. -/
  read : StateT (List Reply) (Except GatewayError) α

namespace Batch

/-- Takes the next of the replies. -/
def nextReply : StateT (List Reply) (Except GatewayError) Reply :=
  modifyGet fun
    | [] => (Reply.lost, [])
    | reply :: rest => (reply, rest)

def one (question : Question α) : Batch α where
  calls :=
    [{ method := question.method
       params := question.params
       fault? := fun reply => match question.read reply with
         | .ok _ => none
         | .error error => some error }]
  read := do question.read (← nextReply)

instance : Applicative Batch where
  pure answer := ⟨[], pure answer⟩
  seq function argument :=
    ⟨function.calls ++ (argument ()).calls, function.read <*> (argument ()).read⟩

end Batch

/-! ## Queries -/

inductive Query (α : Type) where
  | done (outcome : Except GatewayError α)
  | call (method : String) (params : Json) (resume : Reply → Query α)
  /-- Goes on with a reply for each call, or with the first fault. -/
  | together (calls : List BatchCall)
      (resume : Except GatewayError (List Reply) → Query α)

namespace Query

/-- Goes on after an answer; a failure ends the whole query. -/
def bind (query : Query α) (next : α → Query β) : Query β :=
  match query with
  | .done (.ok answer) => next answer
  | .done (.error error) => .done (.error error)
  | .call method params resume => .call method params fun reply => (resume reply).bind next
  | .together calls resume => .together calls fun replies => (resume replies).bind next

instance : Monad Query where
  pure answer := .done (.ok answer)
  bind := bind

def ofExcept (outcome : Except GatewayError α) : Query α := .done outcome

def fail (error : GatewayError) : Query α := .done (.error error)

/-- Answers with the outcome of another query, also if that fails. -/
def attempt : Query α → Query (Except GatewayError α)
  | .done outcome => .done (.ok outcome)
  | .call method params resume => .call method params fun reply => (resume reply).attempt
  | .together calls resume => .together calls fun replies => (resume replies).attempt

/-- One call and its response. -/
def sendRaw (method : String) (params : Json) : Query Rpc.Response :=
  .call method params .done

/-- One call and its result. -/
def send (method : String) (params : Json) : Query Json :=
  .call method params fun reply => .done reply.result

def ask (question : Question α) : Query α :=
  .call question.method (.list question.params) fun reply => .done (question.read reply)

/-- Makes the calls of a batch together. -/
def gather (batch : Batch α) : Query α :=
  .together batch.calls fun replies => .done (replies.bind (batch.read.run' ·))

end Query

/-! ## Answering queries -/

/-- Something that replies to calls. -/
abbrev Sender (m : Type → Type) := (method : String) → (params : Json) → m Reply

/-- How calls are made, one at a time and several together. -/
structure Caller (m : Type → Type) where
  call : Sender m
  callTogether : List BatchCall → m (Except GatewayError (List Reply))

/-- Makes calls one after the other, up to the first with a faulty reply. -/
def Sender.inTurn [Monad m] (sender : Sender m) :
    List BatchCall → m (Except GatewayError (List Reply))
  | [] => pure (.ok [])
  | call :: rest => do
      let reply ← sender call.method (.list call.params)
      match call.fault? reply with
      | some error => return .error error
      | none => return (← sender.inTurn rest).map (reply :: ·)

/-- Makes calls that belong together in turn. -/
def Sender.caller [Monad m] (sender : Sender m) : Caller m where
  call := sender
  callTogether := sender.inTurn

namespace Query

def runWith [Monad m] (caller : Caller m) : Query α → m (Except GatewayError α)
  | .done outcome => pure outcome
  | .call method params resume => do
      (resume (← caller.call method params)).runWith caller
  | .together calls resume => do
      (resume (← caller.callTogether calls)).runWith caller

/-- Puts a query to something that replies at once. -/
def run [Monad m] (sender : Sender m) (query : Query α) : m (Except GatewayError α) :=
  query.runWith sender.caller

end Query

end LockGateway
