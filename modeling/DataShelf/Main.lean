import DataShelf.CommandLine.Run

/-!
# The program

Reads the environment, the files of the project and standard input, runs the command line, and
writes what comes of it. No engine is linked, so what needs one fails.
-/

namespace DataShelf.Program
set_option autoImplicit false

open CommandLine (Invocation Opt Outcome Surroundings)
open Files (FileTree Path)

/-- The engine of a program to which none is linked. -/
def unlinked : Engine where
  openFailure := some "no engine is linked"
  batch _ _ := some "no engine is linked"
  query _ _ := .unprepared "no engine is linked"
  closeFailure _ := none

/-- The variables of the environment that have a meaning here. -/
def variableNames : List String :=
  Opt.everywhere.filterMap Opt.environmentName? ++ ["EVIDENCE_MCP_HOME"]

def readEnvironment : IO CommandLine.Environment := do
  let mut env := []
  for name in variableNames do
    if let some value ← IO.getEnv name then env := (name, value) :: env
  return env

/-- A tree that was changed, or the tree itself if it could not be. -/
def changed (t : FileTree) (change : FileTree → Except Files.FileError FileTree) : FileTree :=
  (change t).toOption.getD t

/-- A tree that has nothing but the working directory. -/
def emptyTree : IO FileTree := do
  let place := (Path.ofString (toString (← IO.currentDir))).segments.filter fun n => !n.isIdle
  let root : FileTree := ⟨.directory [], []⟩
  return { changed root (·.ensureDirectory ⟨place⟩) with work := place }

/-- Takes over what a path leads to, directories no deeper than `depth`. What the engine is to read
is taken over without its contents. -/
partial def takeOver (t : FileTree) (depth : Nat) (path : String) (visited : List String) :
    IO FileTree := do
  let place := (← IO.currentDir) / path
  let p := Path.ofString path
  if ← place.isDir then
    let real := toString (← IO.FS.realPath place)
    let mut t := changed t (·.ensureDirectory p)
    if depth = 0 || visited.contains real then return t
    for entry in ← place.readDir do
      t ← takeOver t (depth - 1) (path ++ "/" ++ entry.fileName) (real :: visited)
    return t
  else if ← place.pathExists then
    let contents ← if p.hasExtension Catalog.parquetExtension then pure .empty
      else IO.FS.readBinFile place
    return changed t (·.writeFile p contents.toList)
  else return t

/-- The files that an invocation is about. -/
def snapshot (i : Invocation) : IO FileTree := do
  let mut t ← emptyTree
  if let some project := i.projectPath then
    t ← takeOver t 0 project.display []
    if t.isDirectory project then
      let opened : Catalog.Project := ⟨project, none⟩
      t ← takeOver t 64 opened.renderedData.display []
      t ← takeOver t 64 (project.joinText Catalog.Project.sourcesName).display []
  if let some data := i.dataPath then
    t ← takeOver t 64 data.display []
  return t

/-- Writes what comes of a run and answers its status. -/
def report (outcome : Outcome) : IO UInt32 := do
  (← IO.getStdout).putStr outcome.output
  (← IO.getStdout).flush
  (← IO.getStderr).putStr outcome.errors
  return UInt32.ofNat outcome.status

/-- Serves standard input, one line at a time. -/
partial def serveInput (s : Server) (initialized : Bool) : IO UInt32 := do
  let line ← (← IO.getStdin).getLine
  if line.isEmpty then return 0
  let run := (Server.serve s none initialized (Text.octets line)).value
  match run.failure with
  | some message => report (.failed run.sink.written (.plain message []))
  | none =>
    discard <| report (.done run.sink.written)
    serveInput s run.initialized

end DataShelf.Program

open DataShelf CommandLine in
/-- Runs the command line that the program was started with. -/
def main (words : List String) : IO UInt32 := do
  let environment ← Program.readEnvironment
  match Invocation.read environment words with
  | .error stop => Program.report (.ofStop environment stop)
  | .ok i =>
    let files ← Program.snapshot i
    match i.task with
    | .serve =>
      match (openGateway files Program.unlinked i.projectPath i.dataPath).value with
      | .error f => Program.report (.failed "" f)
      | .ok g => Program.serveInput ⟨serverConfig i, g⟩ false
    | _ => Program.report (run ⟨files, Program.unlinked, environment, []⟩ words).value
