import DataShelf.Query.Gateway
import DataShelf.Server.ToolError
import DataShelf.Wire.Tool

/-!
# Tools

The four things that a client can ask the server to do. Every argument is a text and has to be
there.
-/

namespace DataShelf.Server
set_option autoImplicit false

open Catalog (SourceSummary schemaToJson)
open Query (Gateway)

/-- A tool of the server. -/
inductive Tool where
  | describeTable
  | listSources
  | listTables
  | query
  deriving DecidableEq, Repr

namespace Tool

/-- All tools, in the order of their names. -/
def all : List Tool := [.describeTable, .listSources, .listTables, .query]

def name : Tool → String
  | .describeTable => "evidence-describe-table"
  | .listSources => "evidence-list-sources"
  | .listTables => "evidence-list-tables"
  | .query => "evidence-query"

def description : Tool → String
  | .describeTable => "Describe the columns of a table as recorded in its schema file. " ++
      "Returns an empty list when the table has no schema file."
  | .listSources => "List all Evidence data sources with their table names and directory paths."
  | .listTables => "List the tables of one Evidence data source."
  | .query => "Run a read-only SQL query (DuckDB dialect). Every table is available as a " ++
      "view named \"<source>_<table>\"; always double-quote the view name, e.g. " ++
      "SELECT * FROM \"sales_orders\" LIMIT 10."

/-- The arguments of a tool, each with what it means. -/
def parameters : Tool → List (String × String)
  | .describeTable => [("source", "Source name"), ("table", "Table name")]
  | .listSources => []
  | .listTables => [("source", "Source name")]
  | .query => [("query", "SQL query to execute")]

/-- The tool of a name. -/
def ofName? (name : String) : Option Tool := all.find? fun t => t.name == name

/-- What a call of a tool has to look like. -/
def inputSchema (t : Tool) : Json := .object [
  ("type", .string "object"),
  ("properties", .object (t.parameters.map fun p =>
    (p.1, .object [("type", .string "string"), ("description", .string p.2)]))),
  ("required", Json.texts (t.parameters.map (·.1)))]

/-- A tool as it is listed. -/
def definition (t : Tool) : Wire.ToolDefinition := ⟨t.name, t.description, t.inputSchema⟩

/-- A text among the arguments of a call. -/
def argument (arguments : Json) (name : String) : Except ToolError String :=
  match arguments.field? name with
  | none => .error (.invalidParams ("Missing required parameter: " ++ name))
  | some .null => .error (.invalidParams ("Missing required parameter: " ++ name))
  | some j =>
    match Json.Decoder.string.ofJson j with
    | .ok s => .ok s
    | .error m => .error (.invalidParams ("Invalid parameter '" ++ name ++ "': " ++ m.message))

/-- Runs a query that is not blank. -/
def runQuery (g : Gateway) (sql : String) : Traced (Except ToolError Json) :=
  if Text.isAllBlank sql then return .error (.invalidParams "query must not be empty")
  else do
    match ← g.runQuery sql with
    | .error e => return .error (.ofQuery e)
    | .ok result => return .ok (.array result.records)

/-- Does what a tool is for. -/
def execute (g : Gateway) (t : Tool) (arguments : Json) : Traced (Except ToolError Json) :=
  match t with
  | .listSources => return .ok (.array (g.catalog.summaries.map SourceSummary.toJson))
  | .listTables => return do
    let source ← argument arguments "source"
    let names ← (g.catalog.sourceTables source).mapError .ofCatalog
    return Json.texts names
  | .describeTable => return do
    let source ← argument arguments "source"
    let table ← argument arguments "table"
    let fields ← (g.describeTable source table).mapError .ofQuery
    return schemaToJson fields
  | .query =>
    match argument arguments "query" with
    | .error e => return .error e
    | .ok sql => runQuery g sql

end Tool
end DataShelf.Server
