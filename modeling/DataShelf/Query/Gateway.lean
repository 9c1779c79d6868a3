import DataShelf.Query.Session

/-!
# The gateway

Tables are listed and described from the catalog alone. Every query has a session of its own, which
is closed before the result is handed out.
-/

namespace DataShelf.Query
set_option autoImplicit false

open Catalog (SchemaField TableRef viewName)
open Files (FileTree)

/-- How many rows a preview shows. -/
def previewLimit : Nat := 100

/-- What queries run on: the files at the time, the engine and the catalog. -/
structure Gateway where
  files : FileTree
  engine : Engine
  catalog : Catalog

namespace Gateway

variable (g : Gateway)

/-- The names that lead to tables. -/
def listTables : List TableRef := g.catalog.tableRefs

/-- The fields of a table. -/
def describeTable (source table : String) : Except QueryError (List SchemaField) :=
  (g.catalog.tableSchema source table).mapError .catalog

/-- Runs a query in a session of its own. -/
def runQuery (sql : String) : Traced (Except QueryError Result) := do
  match ← Session.open g.files g.engine g.catalog with
  | .error err => return .error err
  | .ok session =>
    let (outcome, session) ← session.query g.engine sql
    session.close g.engine
    return outcome

/-- The statement that shows the first rows of a view. -/
def previewStatement (view : String) (limit : Nat) : String :=
  "SELECT * FROM " ++ Sql.identifier view ++ " LIMIT " ++ toString limit

/-- Shows the first rows of a table, unless another table owns its view name. -/
def previewTable (source table : String) (limit : Nat) : Traced (Except QueryError Result) :=
  match g.catalog.table source table with
  | .error err => return .error (.catalog err)
  | .ok _ =>
    let view := viewName source table
    match viewOwner? g.catalog view with
    | some (ownerSource, ownerTable) =>
      if ownerSource.name = source ∧ ownerTable.name = table then
        g.runQuery (previewStatement view limit)
      else
        return .error (.viewCollision ⟨view, source, table, ownerSource.name, ownerTable.name⟩)
    | none => g.runQuery (previewStatement view limit)

end Gateway
end DataShelf.Query
