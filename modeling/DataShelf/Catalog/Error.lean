/-!
# Errors of the catalog
-/

namespace DataShelf.Catalog
set_option autoImplicit false

/-- Why a catalog cannot be had, or a name in it. -/
inductive CatalogError where
  | configuration (message : String)
  | notFound (message : String)
  | io (message : String)
  | json (message : String)
  deriving DecidableEq, Repr

namespace CatalogError

/-- There is no source of a name. -/
def sourceNotFound (source : String) : CatalogError := .notFound ("Source not found: " ++ source)

/-- There is no table of a name in a source. -/
def tableNotFound (source table : String) : CatalogError :=
  .notFound ("Table not found: " ++ table ++ " in source " ++ source)

/-- Whether a name was looked up that is not there. -/
def isNotFound : CatalogError → Bool
  | .notFound _ => true
  | _ => false

/-- The words for an error. -/
def message : CatalogError → String
  | .configuration m => "Configuration error: " ++ m
  | .notFound m => "Not found: " ++ m
  | .io m => "IO error: " ++ m
  | .json m => "JSON error: " ++ m

end CatalogError
end DataShelf.Catalog
