import DataShelf.Catalog.Discovery
import DataShelf.Catalog.Error

/-!
# The catalog

The sources of a data root as they were when the catalog was built. Only a root that is no directory
keeps a catalog from being built: a directory of a file tree can be listed, so a root that is one and
cannot be read does not occur.
-/

namespace DataShelf
set_option autoImplicit false

open Files (Path FileTree)
open Catalog

/-- The sources below a data root. -/
structure Catalog where
  root : Path
  origin : Origin
  sources : SourceMap
  deriving Inhabited

namespace Catalog

/-- The catalog of a data root. -/
def build (t : FileTree) (root : Path) : Traced (Except CatalogError Catalog) :=
  if t.isDirectory root then do
    let (origin, sources) ← discover t root
    return .ok ⟨root, origin, sources⟩
  else
    return .error (.configuration ("Data directory is not a directory: " ++ root.display))

variable (c : Catalog)

def isEmpty : Bool := c.sources.isEmpty

/-- All tables with their sources, in the order of their names. -/
def tables : List (Source × Table) :=
  c.sources.values.flatMap fun s => s.tables.values.map fun t => (s, t)

def tableCount : Nat := c.sources.values.foldl (fun n s => n + s.tables.size) 0

def summaries : List SourceSummary := c.sources.values.map SourceSummary.ofSource

def tableRefs : List TableRef := c.tables.map fun e => ⟨e.1.name, e.2.name⟩

/-- The source of a name. -/
def source (name : String) : Except CatalogError Source :=
  match c.sources.get? name with
  | some s => .ok s
  | none => .error (.sourceNotFound name)

/-- The names of the tables in a source. -/
def sourceTables (name : String) : Except CatalogError (List String) :=
  (c.source name).map Source.tableNames

/-- The table of a name in a source. -/
def table (source table : String) : Except CatalogError Table := do
  let s ← c.source source
  match s.tables.get? table with
  | some t => .ok t
  | none => .error (.tableNotFound source table)

/-- The fields of a table. -/
def tableSchema (source table : String) : Except CatalogError (List SchemaField) :=
  (c.table source table).map (·.schemaFields)

/-- The data file of a table. -/
def dataFile (source table : String) : Except CatalogError Path :=
  (c.table source table).map (·.dataFile)

end Catalog
end DataShelf
