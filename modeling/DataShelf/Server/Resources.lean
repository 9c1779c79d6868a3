import DataShelf.Json.Writer
import DataShelf.Query.Gateway
import DataShelf.Server.ResourceUri
import DataShelf.Wire.Resource

/-!
# Resources

Every source is listed, tables and queries have patterns. What cannot be read is answered as plain
text, never as an error of the request.
-/

namespace DataShelf.Server.Resources
set_option autoImplicit false

open Catalog (CatalogError SourceSummary)
open Query (Gateway QueryError)
open Wire (ResourceContents ResourceDefinition ResourceTemplate)

/-- The media type of results. -/
def jsonType : String := "application/json"

/-- The media type of failures. -/
def textType : String := "text/plain"

/-- A source as a resource. -/
def define (s : SourceSummary) : ResourceDefinition where
  uri := ResourceUri.ofSource s.name
  name := "evidence-" ++ s.name
  description := some ("Evidence source '" ++ s.name ++ "' (" ++ toString s.tables.length ++
    " tables)")
  mimeType := some jsonType

/-- The resources of a catalog. -/
def list (c : Catalog) : List ResourceDefinition := c.summaries.map define

/-- The patterns of the other resources. -/
def templates : List ResourceTemplate := [
  ⟨ResourceUri.tablePattern, "evidence-table", some "First rows of one table", some jsonType⟩,
  ⟨ResourceUri.sqlPattern, "evidence-sql", some "Result of a percent-encoded SQL query",
    some jsonType⟩]

/-- An error of the catalog without the kind of error where a name is not there. -/
def bareMessage : CatalogError → String
  | .notFound m => m
  | e => e.message

/-- An error of a query in the same words. -/
def queryMessage : QueryError → String
  | .catalog e => bareMessage e
  | e => e.message

/-- Contents that are a value. -/
def json (uri : String) (j : Json) : ResourceContents := ⟨uri, jsonType, Json.pretty j⟩

/-- Contents that tell of a failure. -/
def text (uri message : String) : ResourceContents := ⟨uri, textType, message⟩

/-- The contents of a source. -/
def readSource (c : Catalog) (uri name : String) : ResourceContents :=
  match c.source name with
  | .ok s => json uri (.object [
      ("source", .string name),
      ("tables", Json.texts s.tableNames),
      ("path", .string s.path.display)])
  | .error e => text uri ("Error reading source: " ++ bareMessage e)

/-- The contents that a query gave. -/
def ofOutcome (uri failure : String) : Except QueryError Query.Result → ResourceContents
  | .ok result => json uri (.array result.records)
  | .error e => text uri (failure ++ queryMessage e)

/-- The contents at an address. -/
def read (g : Gateway) (limit : Nat) (uri : String) : Traced ResourceContents :=
  match ResourceUri.parse? uri with
  | none => do
    Traced.warnWith "Unrecognized resource URI" [("uri", uri)]
    return text uri ("Unrecognized resource URI: " ++ uri)
  | some (.source name) => return readSource g.catalog uri name
  | some (.table source table) =>
    return ofOutcome uri "Error querying table: " (← g.previewTable source table limit)
  | some (.sql query) => return ofOutcome uri "Error executing SQL query: " (← g.runQuery query)

end DataShelf.Server.Resources
