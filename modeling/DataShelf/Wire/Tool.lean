import DataShelf.Wire.Content

/-!
# Tools on the wire

How tools are listed, called and answered.
-/

namespace DataShelf.Wire
set_option autoImplicit false

/-- A tool as it is listed. -/
structure ToolDefinition where
  name : String
  description : String
  inputSchema : Json
  deriving Inhabited

namespace ToolDefinition

def layout : Json.Layout ToolDefinition where
  title := "struct ToolDefinition"
  fields := [
    .required "name" .string fun s t => { t with name := s },
    .required "description" .string fun s t => { t with description := s },
    .required "inputSchema" .any fun j t => { t with inputSchema := j }]
  blank := ⟨"", "", .null⟩

def decoder : Json.Decoder ToolDefinition := layout.decoder

def toJson (t : ToolDefinition) : Json := .object [
  ("name", .string t.name), ("description", .string t.description), ("inputSchema", t.inputSchema)]

end ToolDefinition

/-- The list of tools. -/
structure ToolsList where
  tools : List ToolDefinition
  deriving Inhabited

namespace ToolsList

def layout : Json.Layout ToolsList where
  title := "struct ToolsListResult"
  fields := [.required "tools" (.list ToolDefinition.decoder) fun ts _ => ⟨ts⟩]
  blank := ⟨[]⟩

def decoder : Json.Decoder ToolsList := layout.decoder

def toJson (l : ToolsList) : Json := .object [("tools", .array (l.tools.map ToolDefinition.toJson))]

end ToolsList

/-- A call of a tool. -/
structure ToolCall where
  name : String
  arguments : Json
  deriving Inhabited

namespace ToolCall

def layout : Json.Layout ToolCall where
  title := "struct ToolCallParams"
  fields := [
    .required "name" .string fun s c => { c with name := s },
    .defaulted "arguments" .any fun j c => { c with arguments := j }]
  blank := ⟨"", .null⟩

def decoder : Json.Decoder ToolCall := layout.decoder

def toJson (c : ToolCall) : Json := .object [("name", .string c.name), ("arguments", c.arguments)]

end ToolCall

/-- A tool's answer. The mark of an error is left out where there is none. -/
structure ToolResult where
  content : List ContentBlock
  isError : Bool
  deriving DecidableEq, Inhabited, Repr

namespace ToolResult

def layout : Json.Layout ToolResult where
  title := "struct ToolCallResult"
  fields := [
    .required "content" (.list ContentBlock.decoder) fun bs r => { r with content := bs },
    .defaulted "isError" .bool fun b r => { r with isError := b }]
  blank := ⟨[], false⟩

def decoder : Json.Decoder ToolResult := layout.decoder

def toJson (r : ToolResult) : Json := .record [
  ("content", some (.array (r.content.map ContentBlock.toJson))),
  ("isError", if r.isError then some (.bool true) else none)]

end ToolResult
end DataShelf.Wire
