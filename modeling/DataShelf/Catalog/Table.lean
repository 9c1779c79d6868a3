import DataShelf.Catalog.NameMap
import DataShelf.Files.Path
import DataShelf.Json.Decoder

/-!
# Sources and tables

A source is a named directory of tables. A table has a data file, which decides its kind, and
perhaps a schema file that describes its fields.
-/

namespace DataShelf.Catalog
set_option autoImplicit false

open Files (Path)

/-- The extension of data files in columns. -/
def parquetExtension : String := "parquet"

/-- The extension of scripts that define a table. -/
def sqlExtension : String := "sql"

/-- How the names of schema files end. -/
def schemaSuffix : String := ".schema.json"

/-- A field of a table as its schema file describes it. Keys besides name and type are kept. -/
structure SchemaField where
  name : String
  dataType : String
  extra : Json.Fields
  deriving Inhabited

namespace SchemaField

/-- The keys of a field. -/
def layout : Json.Layout SchemaField where
  title := "struct SchemaField"
  fields := [
    .required "name" .string fun s f => { f with name := s },
    .required "type" .string fun s f => { f with dataType := s }]
  blank := ⟨"", "", []⟩

def decoder : Json.Decoder SchemaField :=
  layout.openDecoder fun key j f => { f with extra := Json.setField key j f.extra }

def toJson (f : SchemaField) : Json :=
  .object (("name", .string f.name) :: ("type", .string f.dataType) :: f.extra)

end SchemaField

/-- What a schema file holds. -/
def schemaDecoder : Json.Decoder (List SchemaField) := .list SchemaField.decoder

def schemaToJson (fields : List SchemaField) : Json := .array (fields.map SchemaField.toJson)

/-- What backs a table. -/
inductive TableKind where
  | parquet
  | sqlScript
  deriving DecidableEq, Inhabited, Repr

namespace TableKind

def name : TableKind → String
  | .parquet => "parquet"
  | .sqlScript => "sql_script"

/-- The kind of a table with a given data file. -/
def ofPath (p : Path) : TableKind := if p.hasExtension sqlExtension then .sqlScript else .parquet

end TableKind

/-- One dataset. -/
structure Table where
  name : String
  dataFile : Path
  schemaFile : Option Path
  schemaFields : List SchemaField
  kind : TableKind
  deriving Inhabited

namespace Table

/-- A table, its kind read off its data file. -/
def of (name : String) (dataFile : Path) (schemaFile : Option Path)
    (schemaFields : List SchemaField) : Table :=
  ⟨name, dataFile, schemaFile, schemaFields, TableKind.ofPath dataFile⟩

def toJson (t : Table) : Json := .object [
  ("name", .string t.name),
  ("data_file", .string t.dataFile.display),
  ("schema_file", (t.schemaFile.map fun p => Json.string p.display).getD .null),
  ("schema_fields", schemaToJson t.schemaFields),
  ("kind", .string t.kind.name)]

end Table

/-- A group of tables in a directory. -/
structure Source where
  name : String
  path : Path
  tables : NameMap Table
  deriving Inhabited

namespace Source

/-- A source without tables. -/
def of (name : String) (path : Path) : Source := ⟨name, path, .empty⟩

def tableNames (s : Source) : List String := s.tables.names

/-- Puts a table under its own name. -/
def add (s : Source) (t : Table) : Source := { s with tables := s.tables.insert t.name t }

def toJson (s : Source) : Json := .object [
  ("name", .string s.name),
  ("path", .string s.path.display),
  ("tables", .object (s.tables.entries.map fun e => (e.1, e.2.toJson)))]

end Source

/-- Sources under their names. -/
abbrev SourceMap := NameMap Source

def SourceMap.toJson (m : SourceMap) : Json :=
  .object (m.entries.map fun e => (e.1, e.2.toJson))

/-- A source as it is listed. -/
structure SourceSummary where
  name : String
  tables : List String
  path : String
  deriving DecidableEq, Inhabited, Repr

namespace SourceSummary

def ofSource (s : Source) : SourceSummary := ⟨s.name, s.tableNames, s.path.display⟩

def layout : Json.Layout SourceSummary where
  title := "struct SourceSummary"
  fields := [
    .required "name" .string fun n s => { s with name := n },
    .required "tables" (.list .string) fun ts s => { s with tables := ts },
    .required "path" .string fun p s => { s with path := p }]
  blank := ⟨"", [], ""⟩

def decoder : Json.Decoder SourceSummary := layout.decoder

def toJson (s : SourceSummary) : Json := .object [
  ("name", .string s.name), ("tables", Json.texts s.tables), ("path", .string s.path)]

end SourceSummary

/-- The names that lead to a table. -/
structure TableRef where
  source : String
  table : String
  deriving DecidableEq, Inhabited, Repr

namespace TableRef

def layout : Json.Layout TableRef where
  title := "struct TableRef"
  fields := [
    .required "source" .string fun n r => { r with source := n },
    .required "table" .string fun n r => { r with table := n }]
  blank := ⟨"", ""⟩

def decoder : Json.Decoder TableRef := layout.decoder

def toJson (r : TableRef) : Json :=
  .object [("source", .string r.source), ("table", .string r.table)]

end TableRef

/-- The name under which a table can be queried. -/
def viewName (source table : String) : String := source ++ "_" ++ table

end DataShelf.Catalog
