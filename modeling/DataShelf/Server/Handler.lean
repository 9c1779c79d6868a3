import DataShelf.Server.Budget
import DataShelf.Server.Resources
import DataShelf.Server.Tool
import DataShelf.Wire.Handshake

/-!
# Answering requests

A line of text is a request if it is a JSON object of the right shape; any other line is answered by
an error at once. The one thing that the server remembers is whether a client has introduced itself,
and no answer depends on it.
-/

namespace DataShelf
set_option autoImplicit false

open Server (Budget Tool ToolError)

/-- How a server is set up. -/
structure Server.Config where
  name : String
  version : String
  maxResponseBytes : Nat
  resultLimit : Nat
  deriving DecidableEq, Inhabited, Repr

/-- The set-up where nothing is set. -/
def Server.Config.usual : Server.Config :=
  ⟨"evidence-mcp-server", "0.1.0", Budget.usual.limit, Query.previewLimit⟩

/-- A server over the tables of a gateway. -/
structure Server where
  config : Server.Config
  gateway : Query.Gateway

namespace Server

open Rpc (ErrorCode ErrorObject Request RequestId Response)

/-- The methods of the server. -/
inductive Method where
  | introduce
  | initialized
  | ping
  | toolsList
  | toolsCall
  | resourcesList
  | resourceTemplatesList
  | resourcesRead
  deriving DecidableEq, Repr

/-- The method of a name. -/
def Method.ofName? (name : String) : Option Method :=
  if name = "initialize" then some .introduce
  else if name = "notifications/initialized" then some .initialized
  else if name = "ping" then some .ping
  else if name = "tools/list" then some .toolsList
  else if name = "tools/call" then some .toolsCall
  else if name = "resources/list" then some .resourcesList
  else if name = "resources/templates/list" then some .resourceTemplatesList
  else if name = "resources/read" then some .resourcesRead
  else none

/-- The parameters of a request as a record; `what` says what they are for. -/
def decodeParams {α : Type} (d : Json.Decoder α) (what : String) (params : Option Json) :
    Except ErrorObject α :=
  match params with
  | none => .error (.of .invalidParams ("Missing " ++ what ++ " params"))
  | some j =>
    match d.ofJson j with
    | .ok a => .ok a
    | .error m =>
      .error (.of .invalidParams ("Invalid " ++ what ++ " params: " ++ m.message))

variable (s : Server)

/-- What the server says about itself. -/
def introduction : Wire.InitializeResult where
  protocolVersion := Wire.protocolVersion
  capabilities := ⟨some ⟨false⟩, some ⟨false⟩⟩
  serverInfo := ⟨s.config.name, s.config.version⟩

/-- The answer of a tool that has no result. -/
def toolFailure (text : String) : Wire.ToolResult := ⟨[⟨text⟩], true⟩

/-- Calls a tool. Bad arguments are an error of the request, other failures are an answer. -/
def callTool (call : Wire.ToolCall) : Traced (Except ErrorObject Wire.ToolResult) :=
  match Tool.ofName? call.name with
  | none => return .error (.of .invalidParams ("Unknown tool: " ++ call.name))
  | some tool => do
    match ← tool.execute s.gateway call.arguments with
    | .ok j =>
      let (content, replaced) ← Budget.enforce ⟨s.config.maxResponseBytes⟩ (Json.pretty j)
      return .ok ⟨[⟨content⟩], replaced⟩
    | .error e =>
      if e.isInvalidParams then return .error e.toErrorObject
      else
        Traced.warnWith ("Tool error: " ++ e.message) [("tool", call.name)]
        return .ok (toolFailure ("Error: " ++ e.message))

/-- What a method answers to its parameters. -/
def answer (m : Method) (params : Option Json) : Traced (Except ErrorObject Json) :=
  match m with
  | .introduce =>
    return (decodeParams Wire.InitializeParams.decoder "initialize" params).map fun _ =>
      s.introduction.toJson
  | .initialized => return .ok (.object [])
  | .ping => return .ok (.object [])
  | .toolsList => return .ok (Wire.ToolsList.toJson ⟨Tool.all.map Tool.definition⟩)
  | .toolsCall =>
    match decodeParams Wire.ToolCall.decoder "tool call" params with
    | .error e => return .error e
    | .ok call => return (← s.callTool call).map Wire.ToolResult.toJson
  | .resourcesList =>
    return .ok (Wire.ResourcesList.toJson ⟨Resources.list s.gateway.catalog⟩)
  | .resourceTemplatesList =>
    return .ok (Wire.ResourceTemplatesList.toJson ⟨Resources.templates⟩)
  | .resourcesRead =>
    match decodeParams Wire.ResourceRead.decoder "resource read" params with
    | .error e => return .error e
    | .ok read => do
      let contents ← Resources.read s.gateway s.config.resultLimit read.uri
      return .ok (Wire.ResourceReadResult.toJson ⟨[contents]⟩)

/-- A response to a request, from what its method answered. -/
def respond (id : Option RequestId) : Except ErrorObject Json → Response
  | .ok j => .success id j
  | .error e => .failure id e

/-- Whether a request introduces a client. -/
def introduces (r : Request) : Bool :=
  r.version = Rpc.version && Method.ofName? r.method = some .introduce &&
    (decodeParams Wire.InitializeParams.decoder "initialize" r.params).isOk

/-- What the method that a request names answers. -/
def outcome (r : Request) : Traced (Except ErrorObject Json) :=
  match Method.ofName? r.method with
  | some m => s.answer m r.params
  | none => return .error (.of .methodNotFound ("Method not found: " ++ r.method))

/-- The response to a request, if it gets one. A wrong version is always answered; otherwise
notifications are not. -/
def handle (r : Request) : Traced (Option Response) :=
  if r.version = Rpc.version then do
    let outcome ← s.outcome r
    return if r.isNotification then none else some (respond r.id outcome)
  else
    return some (.failure r.id (.of .invalidRequest ("Invalid JSON-RPC version: " ++ r.version)))

/-- The request that a value is, or the response to a value that is none. -/
def requestOf (j : Json) : Traced (Except Response Request) :=
  match Request.decoder.ofJson j with
  | .ok r => return .ok r
  | .error m => do
    Traced.warn ("Invalid request: " ++ m.message)
    return .error (.failure ((j.field? "id").bind RequestId.ofJson?)
      (.of .invalidRequest ("Invalid request: " ++ m.message)))

/-- The request in a line, or the response to a line that holds none. -/
def parseLine (line : String) : Traced (Except Response Request) :=
  match Json.read line with
  | .error fault => do
    let message := fault.message line.toList
    Traced.warn ("Unparseable request: " ++ message)
    return .error (.failure none (.of .parseError ("Invalid JSON: " ++ message)))
  | .ok j => requestOf j

end Server
end DataShelf
