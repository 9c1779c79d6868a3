import DataShelf.Query.Error
import DataShelf.Rpc.Response

/-!
# Errors of tools
-/

namespace DataShelf.Server
set_option autoImplicit false

open Catalog (CatalogError)
open Query (QueryError)

/-- Why a tool has no result. -/
inductive ToolError where
  | invalidParams (message : String)
  | notFound (message : String)
  | executionFailed (message : String)
  | internal (message : String)
  | serialization (message : String)
  deriving DecidableEq, Repr

namespace ToolError

/-- The words for an error. -/
def message : ToolError → String
  | .invalidParams m => "Invalid parameters: " ++ m
  | .notFound m => m
  | .executionFailed m => m
  | .internal m => "Internal error: " ++ m
  | .serialization m => "Serialization error: " ++ m

/-- The number of an error. -/
def code : ToolError → Int
  | .invalidParams _ => -32602
  | .notFound _ => -32001
  | .executionFailed _ => -32002
  | .internal _ => -32603
  | .serialization _ => -32603

/-- Whether the caller gave bad arguments, which is an error of the request and no result. -/
def isInvalidParams : ToolError → Bool
  | .invalidParams _ => true
  | _ => false

def ofCatalog : CatalogError → ToolError
  | .notFound m => .notFound m
  | e => .internal e.message

def ofQuery : QueryError → ToolError
  | .catalog e => ofCatalog e
  | .execution m => .executionFailed m
  | .viewCollision c => .executionFailed (QueryError.viewCollision c).message
  | e => .internal e.message

/-- An error as the answer to a request. -/
def toErrorObject (e : ToolError) : Rpc.ErrorObject := ⟨e.code, e.message, none⟩

end ToolError
end DataShelf.Server
