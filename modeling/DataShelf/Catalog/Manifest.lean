import DataShelf.Catalog.Schema

/-!
# Sources from a manifest

A manifest declares tables: either as paths of rendered files for each source, where the part before
the last names the table, or as tables under each source. Rendered files come first; what is
declared besides them is not looked at. Where a table is declared, its data file has to be there.
-/

namespace DataShelf.Catalog.Manifest
set_option autoImplicit false

open Files (Path FileTree)

/-- The name of a manifest in the data root. -/
def fileName : String := "manifest.json"

/-- The key of the rendered files. -/
def renderedKey : String := "renderedFiles"

/-- The key of the declared sources. -/
def sourcesKey : String := "sources"

/-- A rendered path of fewer parts names no table. -/
def leastParts : Nat := 4

/-- A source as a manifest declares it. -/
structure Declared where
  tables : List (String × Json)
  deriving Inhabited

def Declared.layout : Json.Layout Declared where
  title := "struct ManifestSource"
  fields := [.defaulted "tables" (.dict .any) fun ts _ => ⟨ts⟩]
  blank := ⟨[]⟩

/-- The table that a rendered path names. -/
def tableOf? (rendered : String) : Option String :=
  match ((Path.ofString rendered).segments.map Files.Name.display).reverse with
  | _ :: table :: rest => if rest.length + 2 < leastParts then none else some table
  | _ => none

/-- The notice that a declared table has no data file. -/
def missingFile (source table : String) (dataFile : Path) : String :=
  "Manifest lists " ++ source ++ "." ++ table ++ " but " ++ dataFile.display ++ " does not exist"

/-- Adds a declared table to its source, if its data file is there and the name is new. -/
def addTable (t : FileTree) (source : Source) (name : String) : Traced Source :=
  if source.tables.contains name then return source
  else
    let directory := source.path.joinText name
    let dataFile := directory.joinText (name ++ "." ++ parquetExtension)
    if t.isFile dataFile then do
      let schemaFile := directory.joinText (name ++ schemaSuffix)
      if t.isFile schemaFile then
        let fields ← loadSchema t schemaFile
        return source.add (Table.of name dataFile (some schemaFile) fields)
      else return source.add (Table.of name dataFile none [])
    else do
      Traced.warn (missingFile source.name name dataFile)
      return source

/-- Adds a declared source, if one of its tables is there. -/
def addSource (t : FileTree) (root : Path) (sources : SourceMap) (declared : String × List String) :
    Traced SourceMap := do
  let source ← declared.2.foldlM (addTable t) (Source.of declared.1 (root.joinText declared.1))
  if source.tables.isEmpty then return sources else return sources.insert declared.1 source

/-- The sources that are declared, in the order of their names. -/
def ofDeclared (t : FileTree) (root : Path) (declared : NameMap (List String)) :
    Traced SourceMap :=
  declared.entries.foldlM (addSource t root) .empty

/-- The value under a top-level key, unless it is null. -/
def key? (manifest : Json) (key : String) : Option Json :=
  (manifest.field? key).filter fun j => !j.isNull

/-- The tables that rendered files declare. -/
def renderedTables (j : Json) : Except Json.Mismatch (NameMap (List String)) :=
  ((Json.Decoder.dict (.list .string)).ofJson j).map fun rendered =>
    NameMap.ofEntries (rendered.map fun e => (e.1, e.2.filterMap tableOf?))

/-- The tables that sources declare. -/
def sourceTables (j : Json) : Except Json.Mismatch (NameMap (List String)) :=
  ((Json.Decoder.dict Declared.layout.decoder).ofJson j).map fun declared =>
    NameMap.ofEntries (declared.map fun e => (e.1, (NameMap.ofEntries e.2.tables).names))

/-- The tables that a manifest declares; nothing if it declares none or not in the right shape. -/
def declaredTables? (manifest : Json) : Traced (Option (NameMap (List String))) :=
  let decoded (key : String) (tables : Except Json.Mismatch (NameMap (List String))) :
      Traced (Option (NameMap (List String))) :=
    match tables with
    | .ok declared => return some declared
    | .error m => do
      Traced.warn ("Malformed " ++ key ++ " in " ++ fileName ++ ": " ++ m.message)
      return none
  match key? manifest renderedKey with
  | some j => decoded renderedKey (renderedTables j)
  | none =>
    match key? manifest sourcesKey with
    | some j => decoded sourcesKey (sourceTables j)
    | none => return none

/-- The text of a manifest as a value, or what is wrong with it. -/
def read (t : FileTree) (p : Path) : Except String Json :=
  match t.readText p with
  | .error e => .error e.message
  | .ok text =>
    match Json.read text with
    | .ok j => .ok j
    | .error fault => .error (fault.message text.toList)

/-- The sources that the manifest of a root declares; nothing if there is no usable manifest. -/
def discover (t : FileTree) (root : Path) : Traced (Option SourceMap) :=
  let p := root.joinText fileName
  if t.isFile p then
    match read t p with
    | .error message => do
      Traced.warn ("Error reading " ++ fileName ++ ": " ++ message)
      return none
    | .ok manifest => do
      match ← declaredTables? manifest with
      | some declared => return some (← ofDeclared t root declared)
      | none => return none
  else return none

end DataShelf.Catalog.Manifest
