import DataShelf.Catalog.Project
import DataShelf.Json.Writer
import DataShelf.Query.Connection
import DataShelf.Sql.Quoted

/-!
# Fixtures

Projects made up for a trial: a directory to which tables, schemas, manifests and queries are
written where a project has them. The data of a table is written by the engine.
-/

namespace DataShelf
set_option autoImplicit false

open Catalog (Project)
open Files (FileError FileTree Path)

/-- A project made up for a trial, and the files around it. -/
structure Fixture where
  files : FileTree
  directory : Path

namespace Fixture

/-- Why something could not be written. -/
inductive Fault where
  | dataDirectory (error : FileError)
  | directory (error : FileError)
  | file (path : Path) (error : FileError)
  | engine (message : String)
  | data (path : Path) (message : String)
  deriving DecidableEq, Repr

/-- The words for a fault: what failed, and why. -/
def Fault.message : Fault → String
  | .dataDirectory e => "Failed to create rendered data directory: " ++ e.message
  | .directory e => e.message
  | .file p e => "Failed to write " ++ p.display ++ ": " ++ e.message
  | .engine m => m
  | .data p m => "Failed to write parquet fixture " ++ p.display ++ ": " ++ m

variable (f : Fixture)

/-- Where the rendered data lies. -/
def dataDirectory : Path := f.directory.joinText ("/".intercalate Project.renderedWay)

/-- Where the files of a table lie. -/
def tableDirectory (source table : String) : Path :=
  (f.dataDirectory.joinText source).joinText table

/-- Where the data of a table lies. -/
def dataFile (source table : String) : Path :=
  (f.tableDirectory source table).joinText (table ++ ".parquet")

/-- A project without data in a directory. -/
def create (files : FileTree) (directory : Path) : Except Fault Fixture :=
  let f : Fixture := ⟨files, directory⟩
  match files.ensureDirectory f.dataDirectory with
  | .ok files => .ok { f with files }
  | .error e => .error (.dataDirectory e)

/-- Makes the directory that is to hold a file. -/
def ensureParent (p : Path) : Except Fault Fixture :=
  match p.parent? with
  | none => .ok f
  | some above =>
    match f.files.ensureDirectory above with
    | .ok files => .ok { f with files }
    | .error e => .error (.directory e)

/-- Writes a file with all directories that lead to it. Directories stay if the file cannot be
written. -/
def writeFile (p : Path) (contents : String) : Except Fault Unit × Fixture :=
  match f.ensureParent p with
  | .error fault => (.error fault, f)
  | .ok f =>
    match f.files.writeFile p (Text.octets contents) with
    | .ok files => (.ok (), { f with files })
    | .error e => (.error (.file p e), f)

/-- Writes a JSON file. -/
def writeJson (p : Path) (j : Json) : Except Fault Path × Fixture :=
  let (outcome, f) := f.writeFile p (Json.pretty j)
  (outcome.map fun _ => p, f)

/-- Writes any value where the schema of a table lies. -/
def writeSchemaJson (source table : String) (j : Json) : Except Fault Path × Fixture :=
  f.writeJson ((f.tableDirectory source table).joinText (table ++ ".schema.json")) j

/-- A schema of names and types. -/
def schemaJson (fields : List (String × String)) : Json :=
  .array (fields.map fun e => .object [("name", .string e.1), ("type", .string e.2)])

/-- Writes the schema of a table. -/
def writeSchema (source table : String) (fields : List (String × String)) :
    Except Fault Path × Fixture :=
  f.writeSchemaJson source table (schemaJson fields)

/-- Writes the manifest of the rendered data. -/
def writeManifest (j : Json) : Except Fault Path × Fixture :=
  f.writeJson (f.dataDirectory.joinText "manifest.json") j

/-- Writes a query to the sources. -/
def writeQuery (source name sql : String) : Except Fault Path × Fixture :=
  let p := ((f.directory.joinText Project.sourcesName).joinText source).joinText (name ++ ".sql")
  let (outcome, f) := f.writeFile p sql
  (outcome.map fun _ => p, f)

/-- The statement that writes the rows of a query to a file. -/
def exportStatement (select : String) (p : Path) : String :=
  "COPY (" ++ select ++ ") TO " ++ Sql.literal p.display ++ " (FORMAT PARQUET)"

/-- Has an engine write the data of a table, over a connection of its own. -/
def writeData (e : Engine) (source table select : String) :
    Traced (Except Fault Path × Fixture) :=
  let p := f.dataFile source table
  match f.ensureParent p with
  | .error fault => return (.error fault, f)
  | .ok f => do
    match ← Query.Connection.open e with
    | .error err => return (.error (.engine err.engineMessage), f)
    | .ok c =>
      let (outcome, _) ← c.execute e (exportStatement select p)
      Traced.call .drop
      match outcome with
      | .ok _ => return (.ok p, f)
      | .error err => return (.error (.data p err.engineMessage), f)

/-- A table of the standard project: its source, its name, a query for its rows, and its schema if
it has one. -/
structure Sample where
  source : String
  table : String
  select : String
  schema : Option (List (String × String))
  deriving DecidableEq, Repr

/-- The tables of the standard project. -/
def samples : List Sample := [
  ⟨"sales", "orders",
    "SELECT range::INTEGER AS id, (range * 10.5)::DOUBLE AS amount, " ++
      "CASE WHEN range % 2 = 0 THEN 'east' ELSE 'west' END AS region FROM range(1, 6)",
    some [("id", "INTEGER"), ("amount", "DOUBLE"), ("region", "VARCHAR")]⟩,
  ⟨"sales", "customers",
    "SELECT * FROM (VALUES (1, 'Ada'), (2, 'Grace'), (3, 'Edsger')) AS t(id, name)", none⟩,
  ⟨"maniac_neon_prod", "referral_codes copy",
    "SELECT * FROM (VALUES ('ALPHA', 3), ('BRAVO', 7)) AS t(code, uses)",
    some [("code", "VARCHAR"), ("uses", "INTEGER")]⟩]

/-- Writes a table of the standard project. -/
def writeSample (e : Engine) (s : Sample) : Traced (Except Fault Fixture) := do
  let (outcome, f) ← f.writeData e s.source s.table s.select
  match outcome, s.schema with
  | .error fault, _ => return .error fault
  | .ok _, none => return .ok f
  | .ok _, some fields =>
    let (outcome, f) := f.writeSchema s.source s.table fields
    return outcome.map fun _ => f

/-- The standard project. -/
def sample (e : Engine) (files : FileTree) (directory : Path) : Traced (Except Fault Fixture) :=
  match create files directory with
  | .error fault => return .error fault
  | .ok f => samples.foldlM (fun state s =>
      match state with
      | .error fault => return .error fault
      | .ok f => f.writeSample e s) (.ok f)

end Fixture
end DataShelf
