import DataShelf.Catalog.Error
import DataShelf.Files.Path
import DataShelf.Query.Error

/-!
# Failures of commands

What a command says when it fails: what went wrong, under what circumstances, and what to try. An
error that has no advice is told in one line.
-/

namespace DataShelf.CommandLine
set_option autoImplicit false

open Catalog (CatalogError)
open Files (Path)
open Query (QueryError)

/-- A failure with advice. -/
structure Advice where
  message : String
  context : Option String
  suggestions : List String
  deriving DecidableEq, Repr

namespace Advice

/-- A failure with its circumstances and what to try, one thing a line. -/
def render (a : Advice) : String :=
  "ERROR: " ++ a.message ++ "\n" ++
    (a.context.map fun c => "CONTEXT: " ++ c ++ "\n").getD "" ++
    (if a.suggestions.isEmpty then "" else "\n") ++
    String.join (a.suggestions.map fun s => "  " ++ s ++ "\n")

/-- No project is named. -/
def projectMissing : Advice where
  message := "No Evidence project given"
  context := some "The server needs the root directory of an Evidence project"
  suggestions := [
    "TRY: mcp-evidence --project-path /path/to/evidence-project",
    "TRY: export EVIDENCE_PROJECT_PATH=/path/to/evidence-project"]

/-- A project's data cannot be found. -/
def configuration (message : String) (project : Path) : Advice where
  message := message
  context := some ("Looking for data under project " ++ project.display)
  suggestions := [
    "TRY: Render the sources first: cd " ++ project.display ++ " && npm run sources",
    "TRY: Point at the data directly: --data-path /path/to/data"]

/-- A query cannot be run. -/
def queryFailed (message : String) : Advice where
  message := "Query failed: " ++ message
  context := none
  suggestions := [
    "TRY: List tables with: mcp-evidence sources",
    "TRY: Quote view names, e.g. SELECT * FROM \"source_table\""]

end Advice

/-- Why a command failed. A plain failure has the circumstances around it, the outermost first. -/
inductive Failure where
  | advised (advice : Advice)
  | plain (message : String) (circumstances : List String)
  deriving DecidableEq, Repr

namespace Failure

/-- What is said of a failure. -/
def render : Failure → String
  | .advised advice => advice.render
  | .plain message circumstances => "ERROR: " ++ ": ".intercalate (circumstances ++ [message])

/-- The failure of a project whose data cannot be had. -/
def ofCatalog (project : Path) : CatalogError → Failure
  | .configuration message => .advised (.configuration message project)
  | e => .plain e.message []

/-- The failure of a query. -/
def ofQuery : QueryError → Failure
  | .execution message => .advised (.queryFailed message)
  | e => .plain e.message []

end Failure
end DataShelf.CommandLine
