import DataShelf.Catalog.Schema

/-!
# Sources from directories

A tree with a SQL script in it is a tree of scripts: each script is a table, named by its file, in
the source that its directory names. Any other tree holds a directory for each source and in it a
directory for each table; the first data file of a table's directory counts, and the first schema
file.
-/

namespace DataShelf.Catalog.Scan
set_option autoImplicit false

open Files (Path FileTree)

/-- The names of the source and the table that a script defines. -/
def scriptNames? (script : Path) : Option (Path × String × String) := do
  let above ← script.parent?
  let table ← (← script.stem?).text?
  let source ← (← above.fileName?).text?
  return (above, source, table)

/-- The notice that a script defines what another one defines already. -/
def duplicateScript (script : Path) (source table : String) : String :=
  "Duplicate script " ++ script.display ++ " for " ++ source ++ "." ++ table ++
    ", keeping the first"

/-- Adds the table that a script defines, unless there is one of that name in its source. -/
def addScript (sources : SourceMap) (script : Path) : Traced SourceMap :=
  match scriptNames? script with
  | none => return sources
  | some (above, sourceName, tableName) =>
    let source := (sources.get? sourceName).getD (Source.of sourceName above)
    if source.tables.contains tableName then do
      Traced.warn (duplicateScript script sourceName tableName)
      return sources
    else
      return sources.insert sourceName (source.add (Table.of tableName script none []))

/-- The sources that scripts define. -/
def ofScripts (scripts : List Path) : Traced SourceMap := scripts.foldlM addScript .empty

/-- Whether a path is named as a schema file is. -/
def isSchemaPath (p : Path) : Bool :=
  match p.fileName?.bind Files.Name.text? with
  | some name => name.endsWith schemaSuffix
  | none => false

/-- The table in a directory, if it holds a data file. -/
def table? (t : FileTree) (name : String) (directory : Path) : Traced (Option Table) := do
  match ← t.findFiles directory fun p => p.hasExtension parquetExtension with
  | [] => return none
  | dataFile :: _ =>
    match ← t.findFiles directory isSchemaPath with
    | [] => return some (Table.of name dataFile none [])
    | schemaFile :: _ =>
      let fields ← loadSchema t schemaFile
      return some (Table.of name dataFile (some schemaFile) fields)

/-- Adds the table in a directory to a source. -/
def addTable (t : FileTree) (source : Source) (directory : Path) : Traced Source :=
  match directory.fileName?.bind Files.Name.text? with
  | none => return source
  | some name => do
    match ← table? t name directory with
    | some table => return source.add table
    | none => return source

/-- Adds the source in a directory, if it has a table. -/
def addSource (t : FileTree) (sources : SourceMap) (directory : Path) : Traced SourceMap :=
  match directory.fileName? with
  | none => return sources
  | some file =>
    match file.text? with
    | none => return sources
    | some name =>
      if file.isHidden then return sources
      else do
        let directories ← t.subdirectories directory
        let source ← directories.foldlM (addTable t) (Source.of name directory)
        if source.tables.isEmpty then return sources else return sources.insert name source

/-- The sources that directories hold. -/
def ofDirectories (t : FileTree) (root : Path) : Traced SourceMap := do
  (← t.subdirectories root).foldlM (addSource t) .empty

/-- The sources below a root. -/
def discover (t : FileTree) (root : Path) : Traced SourceMap := do
  match ← t.findFiles root fun p => p.hasExtension sqlExtension with
  | [] => ofDirectories t root
  | scripts => ofScripts scripts

end DataShelf.Catalog.Scan
