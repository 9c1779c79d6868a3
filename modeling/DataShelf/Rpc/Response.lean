import DataShelf.Rpc.Request

/-!
# Responses

A response repeats the id of its request, or has the id null where none could be read, and holds a
result or an error.
-/

namespace DataShelf.Rpc
set_option autoImplicit false

/-- The kinds of errors that have a code. -/
inductive ErrorCode where
  | parseError
  | invalidRequest
  | methodNotFound
  | invalidParams
  | internalError
  | serverError (code : Int)
  deriving DecidableEq, Repr

/-- The number of a kind of error. -/
def ErrorCode.code : ErrorCode → Int
  | .parseError => -32700
  | .invalidRequest => -32600
  | .methodNotFound => -32601
  | .invalidParams => -32602
  | .internalError => -32603
  | .serverError code => code

/-- What went wrong with a request. -/
structure ErrorObject where
  code : Int
  message : String
  data : Option Json
  deriving Inhabited

namespace ErrorObject

/-- An error without further data. -/
def of (code : ErrorCode) (message : String) : ErrorObject := ⟨code.code, message, none⟩

def layout : Json.Layout ErrorObject where
  title := "struct JsonRpcError"
  fields := [
    .required "code" .int32 fun n e => { e with code := n },
    .required "message" .string fun s e => { e with message := s },
    .optional "data" .any fun d e => { e with data := d }]
  blank := ⟨0, "", none⟩

def decoder : Json.Decoder ErrorObject := layout.decoder

def toJson (e : ErrorObject) : Json := .record [
  ("code", some (.integer e.code)),
  ("message", some (.string e.message)),
  ("data", e.data)]

end ErrorObject

/-- The answer to a request. -/
structure Response where
  version : String
  id : Option RequestId
  result : Option Json
  error : Option ErrorObject
  deriving Inhabited

namespace Response

/-- The answer to a request that succeeded. -/
def success (id : Option RequestId) (result : Json) : Response :=
  ⟨Rpc.version, id, some result, none⟩

/-- The answer to a request that failed. -/
def failure (id : Option RequestId) (error : ErrorObject) : Response :=
  ⟨Rpc.version, id, none, some error⟩

def layout : Json.Layout Response where
  title := "struct JsonRpcResponse"
  fields := [
    .required "jsonrpc" .string fun s r => { r with version := s },
    .optional "id" RequestId.decoder fun id r => { r with id := id },
    .optional "result" .any fun j r => { r with result := j },
    .optional "error" ErrorObject.decoder fun e r => { r with error := e }]
  blank := ⟨"", none, none, none⟩

def decoder : Json.Decoder Response := layout.decoder

def toJson (r : Response) : Json := .record [
  ("jsonrpc", some (.string r.version)),
  ("id", some ((r.id.map RequestId.toJson).getD .null)),
  ("result", r.result),
  ("error", r.error.map ErrorObject.toJson)]

end Response
end DataShelf.Rpc
