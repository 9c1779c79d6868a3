import DataShelf.Query.Connection
import DataShelf.Query.View

/-!
# Sessions

A session is a connection of its own with a view for each table of the catalog. A table whose view
cannot be made, or whose view name another table owns, is skipped; the operator is told.
-/

namespace DataShelf.Query
set_option autoImplicit false

open Catalog (Source Table viewName)
open Files (FileTree)

/-- A connection with views on it. -/
structure Session where
  connection : Connection
  registered : Nat
  skipped : Nat
  deriving DecidableEq, Inhabited, Repr

/-- The owner of each view name that was met. -/
abbrev Owners := List (String × (String × String))

/-- Who owns a view name. -/
def Owners.of? (owners : Owners) (view : String) : Option (String × String) :=
  (owners.find? fun e => e.1 == view).map (·.2)

namespace Session

/-- Sends the statement for the view of a table. -/
def register (t : FileTree) (e : Engine) (source : String) (table : Table) (s : Session) :
    Traced (Except QueryError Unit × Session) :=
  match viewStatement t source table with
  | .error err => return (.error err, s)
  | .ok sql => do
    let (outcome, connection) ← s.connection.execute e sql
    return (outcome.mapError .ofConnection, { s with connection })

/-- Tells that a table does not own its view name. -/
def tellCollision (view source table : String) (owner : String × String) : Traced Unit :=
  Traced.warnWith "View name collision, keeping the first table" [
    ("view", view), ("source", source), ("table", table),
    ("owner_source", owner.1), ("owner_table", owner.2)]

/-- Tells that the view of a table could not be made. -/
def tellSkipped (source : String) (table : Table) (err : QueryError) : Traced Unit :=
  Traced.warnWith "Skipping view registration" [
    ("source", source), ("table", table.name),
    ("file", table.dataFile.display), ("error", err.message)]

/-- Makes the view of a table, unless its name is taken. -/
def addTable (t : FileTree) (e : Engine) (state : Owners × Session) (entry : Source × Table) :
    Traced (Owners × Session) := do
  let (owners, s) := state
  let (source, table) := entry
  let view := viewName source.name table.name
  match owners.of? view with
  | some owner =>
    tellCollision view source.name table.name owner
    return (owners, { s with skipped := s.skipped + 1 })
  | none =>
    let owners := (view, (source.name, table.name)) :: owners
    let (outcome, s) ← s.register t e source.name table
    match outcome with
    | .ok _ => return (owners, { s with registered := s.registered + 1 })
    | .error err =>
      tellSkipped source.name table err
      return (owners, { s with skipped := s.skipped + 1 })

/-- Opens a connection and makes the views of a catalog on it. -/
def «open» (t : FileTree) (e : Engine) (c : Catalog) : Traced (Except QueryError Session) := do
  match ← Connection.open e with
  | .error err => return .error (.session err.engineMessage)
  | .ok connection =>
    let (_, s) ← c.tables.foldlM (addTable t e) ([], ⟨connection, 0, 0⟩)
    return .ok s

/-- Sends a query as it is. -/
def query (e : Engine) (s : Session) (sql : String) :
    Traced (Except QueryError Result × Session) := do
  let (outcome, connection) ← s.connection.query e sql
  return (outcome.mapError .ofConnection, { s with connection })

/-- Ends a session. That it could not be closed is only told. -/
def close (e : Engine) (s : Session) : Traced Unit := do
  match ← s.connection.close e with
  | .ok _ => return ()
  | .error err =>
    Traced.warnWith "Failed to close query session" [("error", err.message)]

end Session
end DataShelf.Query
