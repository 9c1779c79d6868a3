import DataShelf.Json.Decoder

/-!
# Resources on the wire

How resources and resource templates are listed, and how resources are read.
-/

namespace DataShelf.Wire
set_option autoImplicit false

/-- A resource as it is listed. -/
structure ResourceDefinition where
  uri : String
  name : String
  description : Option String
  mimeType : Option String
  deriving DecidableEq, Inhabited, Repr

namespace ResourceDefinition

def layout : Json.Layout ResourceDefinition where
  title := "struct ResourceDefinition"
  fields := [
    .required "uri" .string fun s r => { r with uri := s },
    .required "name" .string fun s r => { r with name := s },
    .optional "description" .string fun s r => { r with description := s },
    .optional "mimeType" .string fun s r => { r with mimeType := s }]
  blank := ⟨"", "", none, none⟩

def decoder : Json.Decoder ResourceDefinition := layout.decoder

def toJson (r : ResourceDefinition) : Json := .record [
  ("uri", some (.string r.uri)),
  ("name", some (.string r.name)),
  ("description", r.description.map .string),
  ("mimeType", r.mimeType.map .string)]

end ResourceDefinition

/-- The list of resources. -/
structure ResourcesList where
  resources : List ResourceDefinition
  deriving DecidableEq, Inhabited, Repr

namespace ResourcesList

def layout : Json.Layout ResourcesList where
  title := "struct ResourcesListResult"
  fields := [.required "resources" (.list ResourceDefinition.decoder) fun rs _ => ⟨rs⟩]
  blank := ⟨[]⟩

def decoder : Json.Decoder ResourcesList := layout.decoder

def toJson (l : ResourcesList) : Json :=
  .object [("resources", .array (l.resources.map ResourceDefinition.toJson))]

end ResourcesList

/-- A family of resources, named by a pattern. -/
structure ResourceTemplate where
  uriTemplate : String
  name : String
  description : Option String
  mimeType : Option String
  deriving DecidableEq, Inhabited, Repr

namespace ResourceTemplate

def layout : Json.Layout ResourceTemplate where
  title := "struct ResourceTemplate"
  fields := [
    .required "uriTemplate" .string fun s r => { r with uriTemplate := s },
    .required "name" .string fun s r => { r with name := s },
    .optional "description" .string fun s r => { r with description := s },
    .optional "mimeType" .string fun s r => { r with mimeType := s }]
  blank := ⟨"", "", none, none⟩

def decoder : Json.Decoder ResourceTemplate := layout.decoder

def toJson (r : ResourceTemplate) : Json := .record [
  ("uriTemplate", some (.string r.uriTemplate)),
  ("name", some (.string r.name)),
  ("description", r.description.map .string),
  ("mimeType", r.mimeType.map .string)]

end ResourceTemplate

/-- The list of resource templates. -/
structure ResourceTemplatesList where
  resourceTemplates : List ResourceTemplate
  deriving DecidableEq, Inhabited, Repr

namespace ResourceTemplatesList

def layout : Json.Layout ResourceTemplatesList where
  title := "struct ResourceTemplatesListResult"
  fields := [.required "resourceTemplates" (.list ResourceTemplate.decoder) fun rs _ => ⟨rs⟩]
  blank := ⟨[]⟩

def decoder : Json.Decoder ResourceTemplatesList := layout.decoder

def toJson (l : ResourceTemplatesList) : Json :=
  .object [("resourceTemplates", .array (l.resourceTemplates.map ResourceTemplate.toJson))]

end ResourceTemplatesList

/-- A request to read a resource. -/
structure ResourceRead where
  uri : String
  deriving DecidableEq, Inhabited, Repr

namespace ResourceRead

def layout : Json.Layout ResourceRead where
  title := "struct ResourceReadParams"
  fields := [.required "uri" .string fun s _ => ⟨s⟩]
  blank := ⟨""⟩

def decoder : Json.Decoder ResourceRead := layout.decoder

def toJson (r : ResourceRead) : Json := .object [("uri", .string r.uri)]

end ResourceRead

/-- What a resource holds. -/
structure ResourceContents where
  uri : String
  mimeType : String
  text : String
  deriving DecidableEq, Inhabited, Repr

namespace ResourceContents

def layout : Json.Layout ResourceContents where
  title := "struct ResourceContents"
  fields := [
    .required "uri" .string fun s r => { r with uri := s },
    .required "mimeType" .string fun s r => { r with mimeType := s },
    .required "text" .string fun s r => { r with text := s }]
  blank := ⟨"", "", ""⟩

def decoder : Json.Decoder ResourceContents := layout.decoder

def toJson (r : ResourceContents) : Json := .object [
  ("uri", .string r.uri), ("mimeType", .string r.mimeType), ("text", .string r.text)]

end ResourceContents

/-- The contents that were read. -/
structure ResourceReadResult where
  contents : List ResourceContents
  deriving DecidableEq, Inhabited, Repr

namespace ResourceReadResult

def layout : Json.Layout ResourceReadResult where
  title := "struct ResourceReadResult"
  fields := [.required "contents" (.list ResourceContents.decoder) fun cs _ => ⟨cs⟩]
  blank := ⟨[]⟩

def decoder : Json.Decoder ResourceReadResult := layout.decoder

def toJson (r : ResourceReadResult) : Json :=
  .object [("contents", .array (r.contents.map ResourceContents.toJson))]

end ResourceReadResult
end DataShelf.Wire
