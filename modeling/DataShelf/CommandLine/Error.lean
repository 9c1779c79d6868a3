import DataShelf.CommandLine.Usage

/-!
# Errors of the command line
-/

namespace DataShelf.CommandLine
set_option autoImplicit false

/-- What is wrong with a command line. -/
inductive UsageError where
  | unknownArgument (argument : String) (tips : List String)
  | unknownCommand (name : String) (tips : List String)
  | valueMissing (option : Opt)
  | invalidValue (value : String) (option : Opt) (reason : String)
  | valueRefused (value : String) (option : Opt)
  | repeated (option : Opt)
  | argumentMissing (argument : String)
  deriving DecidableEq, Repr

/-- A list of things in quotes. -/
def inQuotes (names : List String) : String :=
  ", ".intercalate (names.map fun n => "'" ++ n ++ "'")

/-- The tip that something of a kind has a similar name, or several have. -/
def similarTip? (kind : String) : List String → Option String
  | [] => none
  | [name] => some ("a similar " ++ kind ++ " exists: " ++ inQuotes [name])
  | names => some ("some similar " ++ kind ++ "s exist: " ++ inQuotes names)

namespace UsageError

/-- What is wrong, in one sentence. -/
def sentence : UsageError → String
  | .unknownArgument argument _ => "unexpected argument '" ++ argument ++ "' found"
  | .unknownCommand name _ => "unrecognized subcommand '" ++ name ++ "'"
  | .valueMissing option =>
    "a value is required for '" ++ option.shown ++ "' but none was supplied"
  | .invalidValue value option reason =>
    "invalid value '" ++ value ++ "' for '" ++ option.shown ++ "': " ++ reason
  | .valueRefused value option =>
    "unexpected value '" ++ value ++ "' for '" ++ option.shown ++
      "' found; no more were expected"
  | .repeated option => "the argument '" ++ option.shown ++ "' cannot be used multiple times"
  | .argumentMissing argument =>
    "the following required arguments were not provided:\n  " ++ argument

/-- What could have been meant. -/
def tips : UsageError → List String
  | .unknownArgument _ tips => tips
  | .unknownCommand _ tips => tips
  | _ => []

/-- Whether a usage line belongs to the message. -/
def showsUsage : UsageError → Bool
  | .valueMissing _ => false
  | .invalidValue _ _ _ => false
  | _ => true

/-- The whole message about a command: the sentence, tips, a usage line, with the options that were
used if it is about them, and where to find help if the command has any. -/
def message (e : UsageError) (c : Command) (used : Option (List Opt)) : String :=
  "error: " ++ e.sentence ++
    (if e.tips.isEmpty then "" else "\n") ++
    String.join (e.tips.map fun t => "\n  tip: " ++ t) ++
    (if e.showsUsage then "\n\n" ++ (used.map c.usageWith).getD c.usage else "") ++
    (if c.options.contains .help then "\n\nFor more information, try '--help'.\n" else "\n")

end UsageError
end DataShelf.CommandLine
