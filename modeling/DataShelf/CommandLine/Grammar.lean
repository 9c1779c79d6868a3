/-!
# Commands and options

What may stand on the command line: options that hold everywhere, commands, and for each command an
option or an argument of its own.
-/

namespace DataShelf.CommandLine
set_option autoImplicit false

/-- The name of the program. -/
def programName : String := "mcp-evidence"

/-- The version of the program. -/
def programVersion : String := "0.1.0"

/-- An option. -/
inductive Opt where
  | json
  | projectPath
  | dataPath
  | resultLimit
  | maxResponseBytes
  | debug
  | help
  | version
  deriving DecidableEq, Repr

namespace Opt

/-- The long name of an option. -/
def long : Opt → String
  | .json => "json"
  | .projectPath => "project-path"
  | .dataPath => "data-path"
  | .resultLimit => "default-result-limit"
  | .maxResponseBytes => "max-response-bytes"
  | .debug => "debug"
  | .help => "help"
  | .version => "version"

/-- Further long names, which help does not show. -/
def aliases : Opt → List String
  | .debug => ["verbose"]
  | _ => []

/-- The letter of an option. -/
def short? : Opt → Option Char
  | .debug => some 'v'
  | .help => some 'h'
  | .version => some 'V'
  | _ => none

/-- What the value of an option is called, if it takes one. -/
def valueName? : Opt → Option String
  | .projectPath => some "PROJECT_PATH"
  | .dataPath => some "DATA_PATH"
  | .resultLimit => some "DEFAULT_RESULT_LIMIT"
  | .maxResponseBytes => some "MAX_RESPONSE_BYTES"
  | _ => none

/-- The variable of the environment that stands in for an option. -/
def environmentName? : Opt → Option String
  | .projectPath => some "EVIDENCE_PROJECT_PATH"
  | .dataPath => some "EVIDENCE_DATA_PATH"
  | .resultLimit => some "EVIDENCE_RESULT_LIMIT"
  | _ => none

/-- The value of an option that is not given. -/
def default? : Opt → Option Nat
  | .resultLimit => some 100
  | .maxResponseBytes => some 1048576
  | _ => none

/-- What an option is for. -/
def about : Opt → String
  | .json => "Output as JSON"
  | .projectPath => "Path to the Evidence project"
  | .dataPath => "Data directory, overriding the project's rendered data"
  | .resultLimit => "Row limit for table resources"
  | .maxResponseBytes => "Largest tool result returned to the client, in bytes"
  | .debug => "Enable debug logging on stderr"
  | .help => "Print help"
  | .version => "Print version"

/-- An option as messages show it, with its value if it takes one. -/
def shown (o : Opt) : String :=
  "--" ++ o.long ++ (o.valueName?.map fun v => " <" ++ v ++ ">").getD ""

/-- The options that hold everywhere. -/
def everywhere : List Opt := [.projectPath, .dataPath, .resultLimit, .maxResponseBytes, .debug]

end Opt

/-- An argument: its name, how usage lines show it, and what it is. -/
structure Argument where
  name : String
  shown : String
  about : String
  deriving DecidableEq, Repr

/-- What the command line is read for: the program, or one of its commands. -/
inductive Command where
  | program
  | serve
  | sources
  | query
  | help
  deriving DecidableEq, Repr

namespace Command

def name : Command → String
  | .program => programName
  | .serve => "serve"
  | .sources => "sources"
  | .query => "query"
  | .help => "help"

/-- A command as usage lines show it. -/
def path : Command → String
  | .program => programName
  | c => programName ++ " " ++ c.name

/-- What a command is for. -/
def about : Command → String
  | .program => "MCP server for querying Evidence.dev project data"
  | .serve => "Run the MCP server over stdio (default)"
  | .sources => "List discovered sources and tables"
  | .query => "Run a SQL query against the project data"
  | .help => "Print this message or the help of the given subcommand(s)"

/-- The options of a command, in the order in which help shows them. -/
def options : Command → List Opt
  | .program => Opt.everywhere ++ [.help, .version]
  | .serve => Opt.everywhere ++ [.help]
  | .sources => .json :: Opt.everywhere ++ [.help]
  | .query => .json :: Opt.everywhere ++ [.help]
  | .help => []

/-- The commands that may follow. -/
def subcommands : Command → List Command
  | .program => [.serve, .sources, .query, .help]
  | _ => []

/-- The argument of a command. -/
def argument? : Command → Option Argument
  | .query => some ⟨"SQL", "<SQL>", "SQL text; tables are views named \"<source>_<table>\""⟩
  | .help => some ⟨"COMMAND", "[COMMAND]...", "Print help for the subcommand(s)"⟩
  | _ => none

/-- The option of a long name. -/
def longOption? (c : Command) (name : String) : Option Opt :=
  c.options.find? fun o => o.long == name || o.aliases.contains name

/-- The option of a letter. -/
def shortOption? (c : Command) (letter : Char) : Option Opt :=
  c.options.find? fun o => o.short? == some letter

/-- The command of a name. -/
def subcommand? (c : Command) (name : String) : Option Command :=
  c.subcommands.find? fun s => s.name == name

/-- All long names of the options of a command. -/
def longNames (c : Command) : List String := c.options.flatMap fun o => o.long :: o.aliases

end Command
end DataShelf.CommandLine
