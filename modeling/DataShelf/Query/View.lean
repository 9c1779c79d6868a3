import DataShelf.Catalog.Basic
import DataShelf.Query.Error
import DataShelf.Sql.Quoted
import DataShelf.Text.Blank

/-!
# Views

Each table is queried through a view that is named for its source and itself. Where two tables
compose to one name, the first in the catalog owns it.
-/

namespace DataShelf.Query
set_option autoImplicit false

open Catalog (Source Table viewName)
open Files (FileTree)

/-- The first table of a catalog whose view has a name. -/
def viewOwner? (c : Catalog) (view : String) : Option (Source × Table) :=
  c.tables.find? fun e => viewName e.1.name e.2.name == view

/-- What a script selects: its text without white space around it and semicolons at its end. -/
def scriptBody (script : String) : String :=
  String.ofList (Text.trimEnd (Text.dropEndWhile (· == ';') (Text.trim script.toList)))

/-- The beginning of a statement that makes a view. -/
def createView (view : String) : String := "CREATE VIEW " ++ Sql.identifier view ++ " AS "

/-- The statement that makes the view of a table. -/
def viewStatement (t : FileTree) (source : String) (table : Table) : Except QueryError String :=
  let head := createView (viewName source table.name)
  match table.kind with
  | .parquet =>
    .ok (head ++ "SELECT * FROM read_parquet(" ++ Sql.literal table.dataFile.display ++ ")")
  | .sqlScript =>
    match t.readText table.dataFile with
    | .error e => .error (.io e.message)
    | .ok script =>
      let body := scriptBody script
      if body.isEmpty then
        .error (.execution ("SQL script is empty: " ++ table.dataFile.display))
      else .ok (head ++ body)

end DataShelf.Query
