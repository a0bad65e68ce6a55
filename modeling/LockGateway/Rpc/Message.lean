import LockGateway.Json.Printer
import LockGateway.Json.Record

/-! JSON-RPC requests, responses, and the errors that responses carry. -/

namespace LockGateway.Rpc

/-! ## Error objects -/

structure ErrorObject where
  code : Int64
  message : String
  data : Option Json
  deriving Repr

namespace ErrorObject

def members (error : ErrorObject) : List (String × Json) :=
  [("code", .ofInt64 error.code), ("message", .string error.message)] ++
    error.data.toList.map (("data", ·))

def toJson (error : ErrorObject) : Json := .ofMembers error.members

def codeField : Json.Field Int64 := .required "code" Json.readInt64
def messageField : Json.Field String := .required "message" Json.readText
def dataField : Json.Field (Option Json) := .omissible "data" Json.readAny

def ofJson (value : Json) : Except Json.Fault ErrorObject := do
  let members ← Json.openRecord "RpcErrorObject"
    [codeField.shape, messageField.shape, dataField.shape] value
  return { code := ← codeField.fetch members
           message := ← messageField.fetch members
           data := ← dataField.fetch members }

/-- The code of an error that came without one. -/
def unspecifiedCode : Int64 := -32000

/-- The text that stands for an error value of any shape: itself if it is a
text, the message that it carries, or else its JSON text. -/
def plainMessage (value : Json) : String :=
  match value with
  | .string text => text
  | other => ((other.member? "message").bind Json.string?).getD other.text

/-- Wallets and relays also answer with bare texts and partial objects. -/
def ofValue (value : Json) : ErrorObject :=
  match ofJson value with
  | .ok error => error
  | .error _ => { code := unspecifiedCode, message := plainMessage value, data := none }

def text (error : ErrorObject) : String :=
  s!"{error.message} (code {String.ofList (Double.integerText error.code.toInt)})"

end ErrorObject

/-! ## Requests -/

structure Request where
  jsonrpc : String
  id : UInt64
  method : String
  params : Json
  deriving Repr

namespace Request

def make (id : UInt64) (method : String) (params : Json) : Request :=
  { jsonrpc := "2.0", id, method, params }

def members (request : Request) : List (String × Json) :=
  [("jsonrpc", .string request.jsonrpc), ("id", .ofUInt64 request.id),
   ("method", .string request.method), ("params", request.params)]

def toJson (request : Request) : Json := .ofMembers request.members

def jsonrpcField : Json.Field String := .required "jsonrpc" Json.readText
def idField : Json.Field UInt64 := .required "id" Json.readUInt64
def methodField : Json.Field String := .required "method" Json.readText
def paramsField : Json.Field Json := .required "params" Json.readAny

def ofJson (value : Json) : Except Json.Fault Request := do
  let members ← Json.openRecord "JsonRpcRequest"
    [jsonrpcField.shape, idField.shape, methodField.shape, paramsField.shape] value
  return { jsonrpc := ← jsonrpcField.fetch members
           id := ← idField.fetch members
           method := ← methodField.fetch members
           params := ← paramsField.fetch members }

end Request

/-! ## Responses -/

structure Response where
  id : Option UInt64
  result : Option Json
  error : Option Json
  deriving Repr

namespace Response

def success (id : UInt64) (result : Json) : Response :=
  { id := some id, result := some result, error := none }

def failure (id : UInt64) (error : Json) : Response :=
  { id := some id, result := none, error := some error }

def members (response : Response) : List (String × Json) :=
  [("id", .ofOption (response.id.map .ofUInt64)), ("result", .ofOption response.result)] ++
    response.error.toList.map (("error", ·))

def toJson (response : Response) : Json := .ofMembers response.members

def idField : Json.Field (Option UInt64) := .omissible "id" Json.readUInt64
def resultField : Json.Field (Option Json) := .omissible "result" Json.readAny
def errorField : Json.Field (Option Json) := .omissible "error" Json.readAny

def ofJson (value : Json) : Except Json.Fault Response := do
  let members ← Json.openRecord "JsonRpcResponse"
    [idField.shape, resultField.shape, errorField.shape] value
  return { id := ← idField.fetch members
           result := ← resultField.fetch members
           error := ← errorField.fetch members }

/-- Null in place of an error is no error. -/
def errorObject? (response : Response) : Option ErrorObject :=
  match response.error with
  | none | some .null => none
  | some value => some (.ofValue value)

/-- What the response answers. An answer without a result is null. -/
def outcome (response : Response) : Except ErrorObject Json :=
  match response.errorObject? with
  | some error => .error error
  | none => .ok (.ofOption response.result)

end Response

end LockGateway.Rpc
