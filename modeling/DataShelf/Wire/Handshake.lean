import DataShelf.Json.Decoder

/-!
# The handshake

What a client says when it arrives, and what the server says about itself.
-/

namespace DataShelf.Wire
set_option autoImplicit false

/-- The revision of the protocol that the server speaks. -/
def protocolVersion : String := "2024-11-05"

/-- Who the client is. -/
structure ClientInfo where
  name : String
  version : String
  deriving DecidableEq, Inhabited, Repr

namespace ClientInfo

def layout : Json.Layout ClientInfo where
  title := "struct ClientInfo"
  fields := [
    .required "name" .string fun s c => { c with name := s },
    .defaulted "version" .string fun s c => { c with version := s }]
  blank := ⟨"", ""⟩

def decoder : Json.Decoder ClientInfo := layout.decoder

def toJson (c : ClientInfo) : Json :=
  .object [("name", .string c.name), ("version", .string c.version)]

end ClientInfo

/-- What a client says when it arrives. -/
structure InitializeParams where
  protocolVersion : String
  capabilities : Json
  clientInfo : ClientInfo
  deriving Inhabited

namespace InitializeParams

def layout : Json.Layout InitializeParams where
  title := "struct InitializeParams"
  fields := [
    .required "protocolVersion" .string fun s p => { p with protocolVersion := s },
    .defaulted "capabilities" .any fun j p => { p with capabilities := j },
    .required "clientInfo" ClientInfo.decoder fun c p => { p with clientInfo := c }]
  blank := ⟨"", .null, ⟨"", ""⟩⟩

def decoder : Json.Decoder InitializeParams := layout.decoder

def toJson (p : InitializeParams) : Json := .object [
  ("protocolVersion", .string p.protocolVersion),
  ("capabilities", p.capabilities),
  ("clientInfo", p.clientInfo.toJson)]

end InitializeParams

/-- Whether the server tells of changes to a list. -/
structure ListChanged where
  listChanged : Bool
  deriving DecidableEq, Inhabited, Repr

namespace ListChanged

def layout : Json.Layout ListChanged where
  title := "struct ListChangedCapability"
  fields := [.required "listChanged" .bool fun b _ => ⟨b⟩]
  blank := ⟨false⟩

def decoder : Json.Decoder ListChanged := layout.decoder

def toJson (c : ListChanged) : Json := .object [("listChanged", .bool c.listChanged)]

end ListChanged

/-- What the server offers. -/
structure ServerCapabilities where
  tools : Option ListChanged
  resources : Option ListChanged
  deriving DecidableEq, Inhabited, Repr

namespace ServerCapabilities

def layout : Json.Layout ServerCapabilities where
  title := "struct ServerCapabilities"
  fields := [
    .optional "tools" ListChanged.decoder fun t c => { c with tools := t },
    .optional "resources" ListChanged.decoder fun r c => { c with resources := r }]
  blank := ⟨none, none⟩

def decoder : Json.Decoder ServerCapabilities := layout.decoder

def toJson (c : ServerCapabilities) : Json := .record [
  ("tools", c.tools.map ListChanged.toJson),
  ("resources", c.resources.map ListChanged.toJson)]

end ServerCapabilities

/-- Who the server is. -/
structure ServerInfo where
  name : String
  version : String
  deriving DecidableEq, Inhabited, Repr

namespace ServerInfo

def layout : Json.Layout ServerInfo where
  title := "struct ServerInfo"
  fields := [
    .required "name" .string fun s i => { i with name := s },
    .required "version" .string fun s i => { i with version := s }]
  blank := ⟨"", ""⟩

def decoder : Json.Decoder ServerInfo := layout.decoder

def toJson (i : ServerInfo) : Json :=
  .object [("name", .string i.name), ("version", .string i.version)]

end ServerInfo

/-- What the server says about itself. -/
structure InitializeResult where
  protocolVersion : String
  capabilities : ServerCapabilities
  serverInfo : ServerInfo
  deriving DecidableEq, Inhabited, Repr

namespace InitializeResult

def layout : Json.Layout InitializeResult where
  title := "struct InitializeResult"
  fields := [
    .required "protocolVersion" .string fun s r => { r with protocolVersion := s },
    .required "capabilities" ServerCapabilities.decoder fun c r => { r with capabilities := c },
    .required "serverInfo" ServerInfo.decoder fun i r => { r with serverInfo := i }]
  blank := ⟨"", ⟨none, none⟩, ⟨"", ""⟩⟩

def decoder : Json.Decoder InitializeResult := layout.decoder

def toJson (r : InitializeResult) : Json := .object [
  ("protocolVersion", .string r.protocolVersion),
  ("capabilities", r.capabilities.toJson),
  ("serverInfo", r.serverInfo.toJson)]

end InitializeResult
end DataShelf.Wire
