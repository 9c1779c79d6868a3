import DataShelf.Catalog.Project
import DataShelf.CommandLine.Failure
import DataShelf.CommandLine.Grid
import DataShelf.CommandLine.Invocation
import DataShelf.Home
import DataShelf.Server.Loop

/-!
# Running a command line

What the program writes and the status it exits with, from the words of its command line, the
environment, the files, the engine and its input. Misuse exits with 2, a command that fails with 1.

The lines of the log are no part of an outcome. A run tells the log what its notices say, and that a
command failed; a filter of the environment, or the option for debugging, selects which of that appears
on standard error too, and the file of the day keeps a copy. `Outcome.errors` is what is said on
standard error besides. Of the file only the directory is here, for it can lie among the data.
-/

namespace DataShelf.CommandLine
set_option autoImplicit false

open Catalog (Project SourceSummary)
open Files (FileTree Path)
open Query (Gateway)

/-- All that a run depends on besides its command line. -/
structure Surroundings where
  files : FileTree
  engine : Engine
  environment : Environment
  input : List UInt8

/-- What a run leaves behind, but for the lines of the log. -/
structure Outcome where
  status : Nat
  output : String
  errors : String
  deriving DecidableEq, Inhabited, Repr

namespace Outcome

/-- The outcome of a command that went well. -/
def done (output : String) : Outcome := ⟨0, output, ""⟩

/-- The outcome of a command that failed after some output. -/
def failed (output : String) (f : Failure) : Outcome := ⟨1, output, f.render ++ "\n"⟩

/-- The outcome of a command line for which there is nothing to do. -/
def ofStop (env : Environment) : Stop → Outcome
  | .version => done (programName ++ " " ++ programVersion ++ "\n")
  | .help c => done (c.helpText env)
  | .misuse e c used => ⟨2, "", e.message c used⟩

end Outcome

/-- Finds the data of a project and makes a gateway to it. -/
def openGateway (files : FileTree) (engine : Engine) (project data : Option Path) :
    Traced (Except Failure Gateway) :=
  match project with
  | none => return .error (.advised .projectMissing)
  | some path =>
    match Project.open? files path data with
    | .error e => return .error (.ofCatalog path e)
    | .ok opened => do
      match ← opened.catalog files with
      | .error e => return .error (.ofCatalog path e)
      | .ok catalog =>
        if catalog.isEmpty then
          Traced.warnWith "No data sources found; every listing will be empty"
            [("root", catalog.root.display)]
        return .ok ⟨files, engine, catalog⟩

/-- A JSON text on lines of its own. -/
def jsonText (j : Json) : String := Json.pretty j ++ "\n"

/-- The grid of all tables. -/
def tablesGrid (c : Catalog) : Grid where
  header := ["SOURCE", "TABLE", "VIEW", "COLUMNS", "FILE"]
  rows := c.tables.map fun (source, table) => [
    source.name, table.name, "\"" ++ Catalog.viewName source.name table.name ++ "\"",
    toString table.schemaFields.length, table.dataFile.display]

/-- The sources of a catalog for a reader. -/
def sourcesText (c : Catalog) : String :=
  if c.isEmpty then "No data sources found in " ++ c.root.display ++ "\n"
  else
    (tablesGrid c).render ++ "\n" ++ toString c.summaries.length ++ " sources, " ++
      toString c.tableCount ++ " tables (discovered via " ++ c.origin.name ++ ")\n"

/-- The sources of a catalog for a program. -/
def sourcesJson (c : Catalog) : String := jsonText (.array (c.summaries.map SourceSummary.toJson))

/-- The result of a query for a reader. -/
def resultText (r : Query.Result) : String :=
  Grid.render ⟨r.columns, r.rows.map fun row => row.toArray.map cellText⟩ ++
    "\n(" ++ toString r.rowCount ++ " rows)\n"

/-- The result of a query for a program. -/
def resultJson (r : Query.Result) : String := jsonText (.array r.records)

/-- The set-up of a server that a command line asks for. -/
def serverConfig (i : Invocation) : Server.Config :=
  { Server.Config.usual with resultLimit := i.resultLimit, maxResponseBytes := i.maxResponseBytes }

/-- Does on a gateway what a command line asks for. -/
def perform (i : Invocation) (input : List UInt8) (g : Gateway) : Traced Outcome :=
  match i.task with
  | .sources json =>
    return .done (if json then sourcesJson g.catalog else sourcesText g.catalog)
  | .query sql json => do
    match ← g.runQuery sql with
    | .error e => return .failed "" (.ofQuery e)
    | .ok r => return .done (if json then resultJson r else resultText r)
  | .serve => do
    let run ← Server.serve ⟨serverConfig i, g⟩ none false input
    let output := run.sink.written
    match run.failure with
    | some message => return .failed output (.plain message [])
    | none => return .done output

/-- The directory of the logs, if the environment says where. -/
def logsDirectory? (env : Environment) : Option Path :=
  let named := (env.get? "EVIDENCE_MCP_HOME").map Path.ofString
  match named, env.get? "HOME" with
  | some _, _ => some (Home.logs (Home.directory .empty named))
  | none, some userHome => some (Home.logs (Home.directory (.ofString userHome) none))
  | none, none => none

/-- The files with the directory of the logs. Without it the program does as well. -/
def filesWithLogs (s : Surroundings) : FileTree :=
  match (logsDirectory? s.environment).map s.files.ensureDirectory with
  | some (.ok files) => files
  | _ => s.files

/-- Runs a command line. -/
def run (s : Surroundings) (words : List String) : Traced Outcome :=
  match Invocation.read s.environment words with
  | .error stop => return .ofStop s.environment stop
  | .ok i => do
    match ← openGateway (filesWithLogs s) s.engine i.projectPath i.dataPath with
    | .error f => return .failed "" f
    | .ok g => perform i s.input g

end DataShelf.CommandLine
