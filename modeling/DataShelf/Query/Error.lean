import DataShelf.Catalog.Error

/-!
# Errors of connections and queries

A connection says what failed with a prefix for the kind of failure; `engineMessage` leaves that
out. A query that fails says what the engine said.
-/

namespace DataShelf.Query
set_option autoImplicit false

open Catalog (CatalogError)

/-- Why something asked of a connection failed. -/
inductive ConnectionError where
  | database (message : String)
  | query (message : String)
  | typeConversion (message : String)
  | invalidInput (message : String)
  | engine (message : String)
  deriving DecidableEq, Repr

namespace ConnectionError

/-- What failed, without the kind of failure. -/
def engineMessage : ConnectionError → String
  | .database m => m
  | .query m => m
  | .typeConversion m => m
  | .invalidInput m => m
  | .engine m => m

/-- The words for an error. -/
def message : ConnectionError → String
  | .database m => "Database error: " ++ m
  | .query m => "Query error: " ++ m
  | .typeConversion m => "Type conversion error: " ++ m
  | .invalidInput m => "Invalid input: " ++ m
  | .engine m => "DuckDB error: " ++ m

end ConnectionError

/-- A view name that two tables compose to: the one that was asked for and the one that owns it. -/
structure Collision where
  view : String
  source : String
  table : String
  ownerSource : String
  ownerTable : String
  deriving DecidableEq, Repr

/-- Why a query has no result. -/
inductive QueryError where
  | catalog (error : CatalogError)
  | execution (message : String)
  | viewCollision (collision : Collision)
  | session (message : String)
  | io (message : String)
  deriving DecidableEq, Repr

namespace QueryError

/-- The error of a query over a connection that failed. -/
def ofConnection (e : ConnectionError) : QueryError := .execution e.engineMessage

/-- Whether a name is not in the catalog. -/
def isNotFound : QueryError → Bool
  | .catalog _ => true
  | _ => false

/-- The words for an error. -/
def message : QueryError → String
  | .catalog e => e.message
  | .execution m => m
  | .viewCollision c => "View \"" ++ c.view ++ "\" for " ++ c.source ++ "." ++ c.table ++
      " is taken by " ++ c.ownerSource ++ "." ++ c.ownerTable
  | .session m => "Query session error: " ++ m
  | .io m => "IO error: " ++ m

end QueryError
end DataShelf.Query
