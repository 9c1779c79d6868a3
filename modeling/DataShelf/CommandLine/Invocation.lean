import DataShelf.CommandLine.Level
import DataShelf.Files.Path

/-!
# What a command line asks for

The words of a command line make up one level for the program and one for the command that they
name. An option that is given on both counts as on the command's level, unless only the program's
level has it from the command line.
-/

namespace DataShelf.CommandLine
set_option autoImplicit false

/-- A word of the command line, before it is known what its place is. -/
inductive Word where
  | separator
  | long (name : String) (attached : Option String)
  | letters (letters : List Char)
  | text (text : String)
  deriving DecidableEq, Repr

/-- The name of a long option, and behind an equals sign its value. -/
def splitAttached (cs : List Char) : String × Option String :=
  let name := String.ofList (cs.takeWhile fun c => c != '=')
  match cs.dropWhile fun c => c != '=' with
  | [] => (name, none)
  | _ :: value => (name, some (String.ofList value))

/-- Sorts a word by the dashes at its beginning. A single dash is a text. -/
def Word.ofString (s : String) : Word :=
  match s.toList with
  | ['-', '-'] => .separator
  | '-' :: '-' :: cs => let (name, attached) := splitAttached cs; .long name attached
  | '-' :: c :: cs => .letters (c :: cs)
  | _ => .text s

/-- Finds the command that help is asked for, each name a command of the one before it. -/
def helpOf : Command → List String → Stop
  | c, [] => .help c
  | c, name :: rest =>
    match c.subcommand? name with
    | some s => helpOf s rest
    | none => .misuse (.unknownCommand name []) c none

/-- Reads the words behind a command. Answers the levels, the program's first; the level of a
command is complete before the one that it stands on. -/
def readLevels (env : Environment) : Level → List String → Except Stop (List Level)
  | l, [] => do return [← l.finish env]
  | l, s :: rest =>
    if l.trailing then do readLevels env (← l.text s) rest
    else
      match if l.isWaiting then none else l.command.subcommand? s with
      | some .help => .error (helpOf l.command rest)
      | some c => do
        let below ← readLevels env (.start c) rest
        return (← l.finish env) :: below
      | none =>
        match Word.ofString s with
        | .separator => readLevels env { l with trailing := true } rest
        | .long name attached => do readLevels env (← l.long name attached rest) rest
        | .letters cs => do readLevels env (← l.letters cs) rest
        | .text s => do readLevels env (← l.word s) rest

/-- The setting of an option that counts on two levels, one above the other. -/
def prevailing (above below : Option Setting) : Option Setting :=
  match above, below with
  | some a, some b => if a.origin = .commandLine && b.origin = .environment then some a else some b
  | above, below => below.or above

/-- The setting of an option that counts. -/
def settingOf (levels : List Level) (o : Opt) : Option Setting :=
  levels.foldl (fun above l => prevailing above (l.settings.find? fun s => s.option == o)) none

/-- Something to do. -/
inductive Task where
  | serve
  | sources (json : Bool)
  | query (sql : String) (json : Bool)
  deriving DecidableEq, Repr

/-- Something to do, and on what. The option for debugging selects lines of the log and nothing else,
so no outcome depends on it. -/
structure Invocation where
  task : Task
  projectPath : Option Files.Path
  dataPath : Option Files.Path
  resultLimit : Nat
  maxResponseBytes : Nat
  debug : Bool

namespace Invocation

/-- What the last level is for. Without a command the server is run. -/
def taskOf (levels : List Level) : Task :=
  match levels.getLast? with
  | none => .serve
  | some l =>
    let json := l.gives .json
    match l.command with
    | .sources => .sources json
    | .query => .query (l.argument.getD "") json
    | _ => .serve

/-- What levels ask for. -/
def ofLevels (levels : List Level) : Invocation :=
  let value (o : Opt) : Option String := (settingOf levels o).map Setting.value
  let number (o : Opt) : Nat :=
    (((value o).bind fun s => (Number.readNatural s).toOption).or o.default?).getD 0
  { task := taskOf levels
    projectPath := (value .projectPath).map Files.Path.ofString
    dataPath := (value .dataPath).map Files.Path.ofString
    resultLimit := number .resultLimit
    maxResponseBytes := number .maxResponseBytes
    debug := (settingOf levels .debug).isSome }

/-- Reads a command line. -/
def read (env : Environment) (words : List String) : Except Stop Invocation := do
  return ofLevels (← readLevels env (.start .program) words)

end Invocation
end DataShelf.CommandLine
