import DataShelf.Catalog.Table
import DataShelf.Files.Walk

/-!
# Schema files

A schema file that cannot be read, or does not have the shape of a list of fields, describes no
fields; the operator is told.
-/

namespace DataShelf.Catalog
set_option autoImplicit false

/-- The fields that a text describes, or what is wrong with the text. -/
def decodeSchema (text : String) : Except String (List SchemaField) :=
  match schemaDecoder.decodeText text with
  | .ok fields => .ok fields
  | .error fault => .error (fault.message text.toList)

/-- The fields that a schema file describes. -/
def loadSchema (t : Files.FileTree) (p : Files.Path) : Traced (List SchemaField) :=
  match t.readText p with
  | .error e => do
    Traced.warn ("Error reading schema file " ++ p.display ++ ": " ++ e.message)
    return []
  | .ok text =>
    match decodeSchema text with
    | .ok fields => return fields
    | .error message => do
      Traced.warn ("Error parsing schema file " ++ p.display ++ ": " ++ message)
      return []

end DataShelf.Catalog
